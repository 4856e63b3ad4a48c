import Mathlib.Data.List.Find
import Patchbay.Proofs.Device
import Patchbay.Proofs.Router.Lifecycle
import Patchbay.Proofs.Router.Starting
/-!
# Binding a sink again

A route reports the sink that it is bound to by a label, whatever text led there when it was started. To the devices of
a bench this label means the same as that text did (`DeviceId.means_label`), if the device has a name at all: the host
in it is that of the bench, and a name that a text led to has no blanks at its ends. What a start depends on is kept by
everything that is done to a router but injecting failures (`Unharmed`), so that the label starts the same route again.
-/

namespace Patchbay

open Audio Text

/-! ## The label of a device that was found -/

namespace DeviceId

variable {text : String} {d d' : DeviceInfo}

theorem means_iff {id : DeviceId} :
    id.means d = true ↔ d.id.name = id.name ∧ (id.host = none ∨ d.id.host = id.host) := by
  simp only [means, Bool.and_eq_true, Bool.or_eq_true, decide_eq_true_eq, Option.isNone_iff_eq_none]

/-- A device of a bench that some text means is read back from its label. -/
theorem parse_label_of_means (hmeans : (parse text).means d = true) (hhost : d.id.host = some benchHost)
    (hname : d.id.name ≠ "") : parse d.id.label = d.id := by
  obtain ⟨hsame, -⟩ := means_iff.1 hmeans
  apply Legible.parse_label
  refine ⟨?_, ?_, fun hnone => by cases hnone.symm.trans hhost⟩
  · rw [hsame]
    exact (legible_parse text).trimmed
  · intro host hsome
    obtain rfl : benchHost = host := Option.some.inj (hhost.symm.trans hsome)
    exact ⟨by decide, by decide, mt String.toList_eq_nil_iff.1 hname⟩

/-- To the devices of the bench the label means what the text meant. -/
theorem means_label (hmeans : (parse text).means d = true) (hhost : d.id.host = some benchHost)
    (hname : d.id.name ≠ "") (hhost' : d'.id.host = some benchHost) :
    (parse d.id.label).means d' = (parse text).means d' := by
  obtain ⟨hsame, hthere⟩ := means_iff.1 hmeans
  rw [parse_label_of_means hmeans hhost hname, Bool.eq_iff_iff, means_iff, means_iff, hsame, hhost', hhost]
  rw [hhost] at hthere
  exact ⟨fun h => ⟨h.1, hthere⟩, fun h => ⟨h.1, .inr rfl⟩⟩

/-- Behind the host in brackets there has to be a name, or else the brackets are the name. -/
theorem name_parse_label (hhost : d.id.host = some benchHost) (hname : d.id.name = "") :
    (parse d.id.label).name = "[Mock]" := by
  have hlabel : d.id.label = "[Mock] " := by
    rw [label, hhost, hname]
    rfl
  rw [hlabel]
  decide

end DeviceId

/-- All outputs of a bench were declared on it. -/
def Audio.Bench.Declared {σ : Type} (b : Bench σ) : Prop :=
  ∀ d ∈ b.outputs, ∃ name rate channels, d = Bench.device name rate channels

theorem Audio.Bench.Declared.host {σ : Type} {b : Bench σ} (h : b.Declared) {d : DeviceInfo} (hd : d ∈ b.outputs) :
    d.id.host = some benchHost := by
  obtain ⟨name, rate, channels, rfl⟩ := h d hd
  rfl

namespace Router

variable {r r' r'' : Router} {route : Route} {sinkLabel : String} {d : DeviceInfo}

/-- Where on the bench the device stands that a label leads to. -/
def sinkPlace? (r : Router) (sinkLabel : String) : Option Nat :=
  r.bench.outputs.findIdx? (DeviceId.parse sinkLabel).means

section Labels
variable (hdeclared : r.bench.Declared) (hsink : r.sink? sinkLabel = some d)
include hdeclared hsink

theorem sink?_label (hname : d.id.name ≠ "") : r.sink? d.id.label = some d := by
  have hmeans := List.find?_some hsink
  have hhost := hdeclared.host (List.mem_of_find?_eq_some hsink)
  have hsame : ∀ d' ∈ r.bench.outputs, (DeviceId.parse d.id.label).means d' = (DeviceId.parse sinkLabel).means d' :=
    fun d' hd' => DeviceId.means_label hmeans hhost hname (hdeclared.host hd')
  rw [sink?, List.find?_congr hsame]
  exact hsink

theorem sink?_label_iff : r.sink? d.id.label = some d ↔ d.id.name ≠ "" := by
  refine ⟨fun hagain hempty => ?_, fun hname => sink?_label hdeclared hsink hname⟩
  obtain ⟨hsame, -⟩ := DeviceId.means_iff.1 (List.find?_some hagain)
  rw [DeviceId.name_parse_label (hdeclared.host (List.mem_of_find?_eq_some hsink)) hempty, hempty] at hsame
  exact absurd hsame (by decide)

end Labels

/-- Labels that lead to the same device lead to the same place, whatever other devices are like it. -/
theorem sinkPlace?_congr {label : String} (h : r.sink? label = r.sink? sinkLabel) :
    r.sinkPlace? label = r.sinkPlace? sinkLabel := by
  rw [sinkPlace?, sinkPlace?, List.findIdx?_eq_bind_find?_idxOf?, List.findIdx?_eq_bind_find?_idxOf?, ← sink?,
    ← sink?, h]

/-! ## What a start depends on -/

/-- What a start depends on is as it was. -/
structure Unharmed (r r' : Router) : Prop where
  settings : r'.settings = r.settings
  inputs : r'.bench.inputs = r.bench.inputs
  outputs : r'.bench.outputs = r.bench.outputs
  failures : r'.bench.failures = r.bench.failures

theorem Unharmed.trans (h : Unharmed r r') (h' : Unharmed r' r'') : Unharmed r r'' where
  settings := h'.settings.trans h.settings
  inputs := h'.inputs.trans h.inputs
  outputs := h'.outputs.trans h.outputs
  failures := h'.failures.trans h.failures

theorem Keeps.unharmed (h : Keeps r r') : Unharmed r r' := ⟨h.settings, h.inputs, h.outputs, h.failures⟩

theorem Unharmed.refl (r : Router) : Unharmed r r := ⟨rfl, rfl, rfl, rfl⟩

namespace Unharmed

variable (h : Unharmed r r')
include h

theorem source? : r'.source? = r.source? := by
  rw [Router.source?, Router.source?, h.settings, h.inputs]

theorem sink? (sinkLabel : String) : r'.sink? sinkLabel = r.sink? sinkLabel := by
  rw [Router.sink?, Router.sink?, h.outputs]

theorem formatFor (source : DeviceInfo) : r'.formatFor source = r.formatFor source := by
  rw [Router.formatFor, Router.formatFor, h.settings]

end Unharmed

theorem Idle.unharmed_start (h : Idle r) (sinkLabel : String) : Unharmed r (r.start sinkLabel).2 := by
  rw [start_unbound h.active]
  have hstarting : Unharmed r r.starting := ⟨rfl, rfl, rfl, rfl⟩
  rcases setup_cases (r := r.starting) h.quiet sinkLabel with
    ⟨-, route, r', hsetup, -, -, hconnected⟩ | ⟨e, r', -, hsetup, hkeeps, -⟩
  · rw [hsetup]
    have hset := hconnected.keeps.unharmed
    exact hstarting.trans ⟨hset.settings, hset.inputs, hset.outputs, hset.failures⟩
  · rw [hsetup]
    have hset := hkeeps.unharmed
    exact hstarting.trans ⟨hset.settings, hset.inputs, hset.outputs, hset.failures⟩

theorem AtRest.unharmed_stop (h : AtRest r) : Unharmed r r.stop := by
  rcases h with hidle | ⟨route, hruns⟩
  · rw [stop_unbound hidle.active]
    exact .refl r
  · obtain ⟨r', hstop, hkeeps, -⟩ := hruns.stop_eq
    rw [hstop]
    exact ⟨hkeeps.settings, hkeeps.inputs, hkeeps.outputs, hkeeps.failures⟩

theorem AtRest.unharmed_op (h : AtRest r) {o : Op} (ho : ∀ failure, o ≠ .inject failure) : Unharmed r (r.op o).2 := by
  cases o with
  | start sinkLabel =>
    rcases h with hidle | ⟨route, hruns⟩
    · exact hidle.unharmed_start sinkLabel
    · rw [Router.op, start_bound hruns.active]
      exact .refl r
  | stop => exact h.unharmed_stop
  | inject failure => exact absurd rfl (ho failure)
  | input | output | gain | behave => exact ⟨rfl, rfl, rfl, rfl⟩

theorem AtRest.unharmed_ops (h : AtRest r) {os : List Op} (hos : ∀ failure, .inject failure ∉ os) :
    Unharmed r (r.ops os).2 := by
  induction os generalizing r with
  | nil => exact .refl r
  | cons o os ih =>
    simp only [List.mem_cons, not_or] at hos
    exact (h.unharmed_op fun failure => Ne.symm (hos failure).1).trans (ih (h.op o) fun failure => (hos failure).2)

/-! ## Once more -/

theorem Idle.start_ok_iff (h : Idle r) :
    (r.start sinkLabel).1 = .ok () ↔ ∀ k ∈ r.conditions sinkLabel, k.met = true := by
  rw [← firstMissing_eq_none_iff, ← obstacle_eq]
  rcases h.start sinkLabel with ⟨hnone, route, live, hok, -⟩ | ⟨e, hsome, herror, -⟩
  · exact iff_of_true hok hnone
  · rw [hsome, herror]
    exact iff_of_false (fun h => by cases h) fun h => by cases h

/-- What starts, and between which devices. -/
theorem Idle.started (h : Idle r) (hstart : (r.start sinkLabel).1 = .ok ()) :
    ∃ route, Runs (r.start sinkLabel).2 route ∧ r.source? = some route.source ∧
      r.sink? sinkLabel = some route.sink ∧ r.formatFor route.source = route.format := by
  rcases h.start sinkLabel with ⟨-, route, live, -, hruns, hres, -⟩ | ⟨e, -, herror, -⟩
  · obtain ⟨hsource, hsink, -, -, -, hformat⟩ := resolve_eq_ok_iff.1 hres
    exact ⟨route, hruns, hsource, hsink, hformat⟩
  · rw [herror] at hstart
    cases hstart

/-- Where nothing that a start depends on has changed, a label that leads to the same sink starts the same route. -/
theorem Idle.start_again (h : Idle r) (hidle : Idle r') (hsame : Unharmed r r')
    (hstart : (r.start sinkLabel).1 = .ok ()) {label : String} (hlabel : r.sink? label = r.sink? sinkLabel) :
    (r'.start label).1 = .ok () := by
  rw [h.start_ok_iff, conditions_met_iff] at hstart
  rwa [hidle.start_ok_iff, conditions_met_iff, hsame.source?, hsame.sink?, hlabel, hsame.settings, hsame.failures]

/-- On a bench of declared devices, the label that a started route reports leads to the place where its sink was found
if and only if the sink has a name. Then, whatever is done to the router, as long as no failure is injected, once it is
stopped the label starts a route to the same sink in the same format, and this route reports the same label. -/
theorem bound_sink_can_be_bound_again (h : Reached r) (hdeclared : r.bench.Declared)
    (hstart : (r.start sinkLabel).1 = .ok ()) :
    let started := (r.start sinkLabel).2
    ∃ route, started.active = some route ∧
      let label := route.sink.id.label
      started.boundSink = some label ∧
      (r.sink? label = some route.sink ↔ route.sink.id.name ≠ "") ∧
      (route.sink.id.name ≠ "" → r.sinkPlace? label = r.sinkPlace? sinkLabel ∧
        ∀ acts, (∀ failure, .inject failure ∉ acts) →
          let again := (started.ops acts).2.stop.start label
          again.1 = .ok () ∧ again.2.boundSink = some label ∧
          ∃ route', again.2.active = some route' ∧ route'.sink = route.sink ∧ route'.format = route.format) := by
  intro started
  have hidle : Idle r := by
    rcases h.cases with hidle | ⟨route, hruns⟩
    · exact hidle
    · rw [start_bound hruns.active] at hstart
      cases hstart
  obtain ⟨route, hruns, hsource, hsink, hformat⟩ := hidle.started hstart
  refine ⟨route, hruns.active, by rw [boundSink, hruns.active]; rfl, sink?_label_iff hdeclared hsink, fun hname => ?_⟩
  have hlabel : r.sink? route.sink.id.label = r.sink? sinkLabel := (sink?_label hdeclared hsink hname).trans hsink.symm
  refine ⟨sinkPlace?_congr hlabel, fun acts hacts => ?_⟩
  intro again
  have hrest : AtRest (started.ops acts).2 := AtRest.ops (.inr ⟨route, hruns⟩) acts
  have hsame : Unharmed r (started.ops acts).2.stop :=
    ((hidle.unharmed_start sinkLabel).trans (AtRest.unharmed_ops (.inr ⟨route, hruns⟩) hacts)).trans hrest.unharmed_stop
  have hidle' : Idle (started.ops acts).2.stop := hrest.stop
  have hagain := hidle.start_again hidle' hsame hstart hlabel
  obtain ⟨route', hruns', hsource', hsink', hformat'⟩ := hidle'.started hagain
  rw [hsame.source?, hsource] at hsource'
  rw [hsame.sink?, hlabel, hsink] at hsink'
  have hsink'' : route'.sink = route.sink := (Option.some.inj hsink').symm
  refine ⟨hagain, by rw [boundSink, hruns'.active, ← hsink'']; rfl, route', hruns'.active, hsink'', ?_⟩
  rw [← hformat', ← hformat, hsame.formatFor, Option.some.inj hsource']

/-- A name with brackets and blanks that two devices have, and two more starts before the route is stopped. -/
theorem bracketed_twin_is_bound_again :
    let r := Router.make (.make [Bench.device "In" 44100 2]
      [Bench.device "Out" 48000 2, Bench.device "] a  [b]" 48000 2, Bench.device "] a  [b]" 44100 2] .none) {}
    let acts : List Op := [.start "Out", .stop, .start "Out"]
    Reached r ∧ r.bench.Declared ∧ (r.start " ] a  [b] ").1 = .ok () ∧ (∀ failure, .inject failure ∉ acts) ∧
      ∃ route, (r.start " ] a  [b] ").2.active = some route ∧ route.sink.id.name ≠ "" ∧
        (((r.start " ] a  [b] ").2.ops acts).2.stop.start route.sink.id.label).2.boundSink =
          some "[Mock] ] a  [b]" := by
  intro r acts
  have hreached : Reached r := ⟨_, _, _, _, [], rfl⟩
  have hdeclared : r.bench.Declared := by
    intro d hd
    simp only [r, Router.make, Bench.make, List.mem_cons, List.not_mem_nil, or_false] at hd
    rcases hd with rfl | rfl | rfl
    all_goals exact ⟨_, _, _, rfl⟩
  have hstart : (r.start " ] a  [b] ").1 = .ok () := rfl
  have hacts : ∀ failure, Op.inject failure ∉ acts := by simp [acts]
  obtain ⟨route, hactive, hbound, -, hagain⟩ := bound_sink_can_be_bound_again hreached hdeclared hstart
  have hfound : some "] a  [b]" = some route.sink.id.name :=
    congrArg (Option.map fun route : Route => route.sink.id.name) hactive
  have hname : route.sink.id.name ≠ "" := by
    rw [← Option.some.inj hfound]
    decide
  obtain ⟨-, hbound', -⟩ := (hagain hname).2 acts hacts
  exact ⟨hreached, hdeclared, hstart, hacts, route, hactive, hname, hbound'.trans hbound.symm⟩

end Router
end Patchbay
