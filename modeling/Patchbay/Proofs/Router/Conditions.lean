import Patchbay.Router.Basic
/-!
# What a start needs

`conditions` lists what a router needs to start a route, in the order in which it is looked at, each with the error of
a start that does not find it; of those that are not met the first one counts (`firstMissing`). The devices and the
format of a route are what these conditions say (`resolve_eq_ok_iff`), and such a format can always be routed.
-/

namespace Patchbay

/-- Whether an identifier means a device: it has the name, and is on the host if one is given. -/
def DeviceId.means (id : DeviceId) (d : DeviceInfo) : Bool :=
  d.id.name = id.name && (id.host.isNone || d.id.host = id.host)

namespace Router

open Audio

/-- Something that a start needs, and what is reported if it is missing. -/
structure Condition where
  met : Bool
  error : AudioError
  deriving DecidableEq, Repr

/-- The device that feeds a route: the first input that is meant, or the first of all if none is asked for. -/
def source? (r : Router) : Option DeviceInfo :=
  match r.settings.sourceDevice with
  | some id => r.bench.inputs.find? id.means
  | none => r.bench.inputs.head?

/-- The device that a label leads to: the first output that is meant. -/
def sink? (r : Router) (sinkLabel : String) : Option DeviceInfo :=
  r.bench.outputs.find? (DeviceId.parse sinkLabel).means

/-- There is a device to feed the route. -/
def needsSource (r : Router) : Condition :=
  { met := r.source?.isSome
    error := match r.settings.sourceDevice with
      | some id => .deviceNotFound id.label
      | none => .noDefaultDevice .input }

/-- The label leads to a device. -/
def needsSink (r : Router) (sinkLabel : String) : Condition :=
  { met := (r.sink? sinkLabel).isSome, error := .deviceNotFound (DeviceId.parse sinkLabel).label }

/-- The format asked for has a rate, and is mono or stereo. -/
def needsFormat (r : Router) : Condition :=
  { met := 0 < r.settings.sampleRate && (r.settings.channels = 1 || r.settings.channels = 2)
    error := .unsupportedFormat r.settings.requestedFormat.text }

/-- A device has channels enough. -/
def needsChannels (r : Router) (device : DeviceInfo) : Condition :=
  { met := r.settings.channels ≤ device.maxChannels
    error := .unsupportedFormat (device.id.label ++
      s!" has {device.maxChannels.toNat} channels, route needs {r.settings.channels.toNat}") }

/-- A step of setting up does not fail on request. -/
def needsStep (r : Router) (step : Failure) : Condition :=
  { met := !r.bench.failures.contains step
    error := match step with
      | .buildInput | .buildOutput => .streamBuild Bench.injected
      | .playInput | .playOutput => .streamPlay Bench.injected
      | .spawn => .threadSpawn "monitor" Bench.injected }

/-- The streams are built and played, and the ring is watched. -/
def needsSteps (r : Router) : List Condition :=
  [Failure.buildInput, .buildOutput, .playInput, .playOutput, .spawn].map r.needsStep

/-- All that a start needs, in the order in which it is looked at. Channels are counted of devices that are there. -/
def conditions (r : Router) (sinkLabel : String) : List Condition :=
  [r.needsSource, r.needsSink sinkLabel, r.needsFormat] ++
    (r.source?.toList ++ (r.sink? sinkLabel).toList).map r.needsChannels ++ r.needsSteps

variable {r : Router} {sinkLabel : String}

/-! ## The devices and the format -/

theorem findDevice_eq (devices : List DeviceInfo) (id : DeviceId) :
    Bench.findDevice devices id =
      match devices.find? id.means with
      | some d => .ok d
      | none => .error (.deviceNotFound id.label) := rfl

theorem resolveInput_eq (r : Router) : r.bench.resolveInput r.settings.sourceDevice =
    match r.source? with
    | some d => .ok d
    | none => .error r.needsSource.error := by
  unfold Bench.resolveInput source? needsSource
  cases r.settings.sourceDevice with
  | some id => exact findDevice_eq ..
  | none =>
    cases r.bench.inputs with
    | nil => rfl
    | cons d ds => rfl

theorem isSupported_requestedFormat (r : Router) : r.settings.requestedFormat.isSupported = r.needsFormat.met := by
  have hchannels : (1 ≤ r.settings.channels ∧ r.settings.channels ≤ maxChannels) ↔
      (r.settings.channels = 1 ∨ r.settings.channels = 2) := by
    simp only [maxChannels, UInt16.le_iff_toNat_le, ← UInt16.toNat_inj, UInt16.toNat_ofNat]
    omega
  rw [Bool.eq_iff_iff]
  simp only [needsFormat, Format.isSupported, Bool.and_eq_true, Bool.or_eq_true, decide_eq_true_eq, ← hchannels]
  exact ⟨fun h => ⟨h.1.1.1, h.1.1.2, h.1.2⟩, fun h => ⟨⟨⟨h.1, h.2.1⟩, h.2.2⟩, rfl⟩⟩

/-- The format of a route between two devices. -/
def formatFor (r : Router) (source : DeviceInfo) : Format :=
  { sampleRate := if source.nominalRate = 0 then r.settings.sampleRate else source.nominalRate
    channels := r.settings.channels
    bitDepth := 32 }

theorem formatFor_eq (r : Router) (source : DeviceInfo) :
    Format.float (if 0 < source.nominalRate then source.nominalRate else r.settings.requestedFormat.sampleRate)
      r.settings.channels = r.formatFor source := by
  unfold formatFor
  by_cases h : source.nominalRate = 0
  · rw [if_pos h, h]
    rfl
  · rw [if_neg h, if_pos (UInt32.pos_iff_ne_zero.2 h)]
    rfl

theorem checkChannels_eq (r : Router) (device : DeviceInfo) : checkChannels r.settings.channels device =
    if (r.needsChannels device).met then .ok () else .error (r.needsChannels device).error := by
  unfold checkChannels needsChannels
  by_cases h : device.maxChannels < r.settings.channels
  · rw [if_pos h, if_neg]
    simpa using h
  · rw [if_neg h, if_pos]
    simpa using h

theorem negotiate_eq (r : Router) (source sink : DeviceInfo) : negotiate r.settings source sink =
    if r.needsFormat.met then
      if (r.needsChannels source).met then
        if (r.needsChannels sink).met then .ok (r.formatFor source)
        else .error (r.needsChannels sink).error
      else .error (r.needsChannels source).error
    else .error r.needsFormat.error := by
  dsimp only [negotiate]
  rw [isSupported_requestedFormat]
  cases hformat : r.needsFormat.met with
  | false => rfl
  | true =>
    have hsource := r.checkChannels_eq source
    have hsink := r.checkChannels_eq sink
    rw [show r.settings.requestedFormat.channels = r.settings.channels from rfl, hsource, hsink]
    cases (r.needsChannels source).met with
    | false => rfl
    | true =>
      cases (r.needsChannels sink).met with
      | false => rfl
      | true =>
        rw [if_pos rfl, if_pos rfl, if_pos rfl]
        exact congrArg Except.ok (r.formatFor_eq source)

/-- Both devices, and the format of the route between them. -/
theorem resolve_eq (r : Router) (sinkLabel : String) : r.resolve sinkLabel =
    match r.source?, r.sink? sinkLabel with
    | none, _ => .error r.needsSource.error
    | some _, none => .error (r.needsSink sinkLabel).error
    | some source, some sink => (negotiate r.settings source sink).map fun format => (source, sink, format) := by
  dsimp only [resolve]
  rw [resolveInput_eq]
  cases r.source? with
  | none => rfl
  | some source =>
    rw [Bench.resolveOutput, findDevice_eq, ← sink?]
    cases r.sink? sinkLabel with
    | none => rfl
    | some sink =>
      cases negotiate r.settings source sink <;> rfl

theorem resolve_eq_ok_iff {source sink : DeviceInfo} {format : Format} :
    r.resolve sinkLabel = .ok (source, sink, format) ↔
      r.source? = some source ∧ r.sink? sinkLabel = some sink ∧ r.needsFormat.met = true ∧
        (r.needsChannels source).met = true ∧ (r.needsChannels sink).met = true ∧ r.formatFor source = format := by
  rw [resolve_eq]
  cases r.source? with
  | none => simp
  | some source' =>
    cases r.sink? sinkLabel with
    | none => simp
    | some sink' =>
      simp only [negotiate_eq, Option.some.injEq]
      constructor
      · intro h
        split at h
        · split at h
          · split at h
            · cases h
              exact ⟨rfl, rfl, ‹_›, ‹_›, ‹_›, rfl⟩
            · cases h
          · cases h
        · cases h
      · rintro ⟨rfl, rfl, hformat, hsource, hsink, rfl⟩
        rw [if_pos hformat, if_pos hsource, if_pos hsink]
        rfl

theorem isSupported_formatFor (h : r.needsFormat.met = true) (source : DeviceInfo) :
    (r.formatFor source).isSupported = true := by
  rw [← isSupported_requestedFormat] at h
  simp only [Format.isSupported, Bool.and_eq_true, decide_eq_true_eq] at h ⊢
  refine ⟨⟨⟨?_, h.1.1.2⟩, h.1.2⟩, rfl⟩
  unfold formatFor
  split
  · exact h.1.1.1
  · exact UInt32.pos_iff_ne_zero.2 ‹_›

/-! ## The first thing missing -/

/-- What is reported of conditions that are not all met. -/
def firstMissing (ks : List Condition) : Option AudioError := (ks.find? fun k => !k.met).map Condition.error

theorem firstMissing_cons (k : Condition) (ks : List Condition) :
    firstMissing (k :: ks) = if k.met then firstMissing ks else some k.error := by
  unfold firstMissing
  rw [List.find?_cons]
  cases k.met <;> rfl

theorem firstMissing_eq_none_iff {ks : List Condition} : firstMissing ks = none ↔ ∀ k ∈ ks, k.met = true := by
  simp [firstMissing, List.find?_eq_none]

theorem firstMissing_eq_some_iff {ks : List Condition} {e : AudioError} : firstMissing ks = some e ↔
    ∃ before k after, ks = before ++ k :: after ∧ (∀ j ∈ before, j.met = true) ∧ k.met = false ∧ k.error = e := by
  simp only [firstMissing, Option.map_eq_some_iff, List.find?_eq_some_iff_append, Bool.not_eq_true', Bool.not_not]
  constructor
  · rintro ⟨k, ⟨hmissing, before, after, hsplit, hbefore⟩, herror⟩
    exact ⟨before, k, after, hsplit, hbefore, hmissing, herror⟩
  · rintro ⟨before, k, after, hsplit, hbefore, hmissing, herror⟩
    exact ⟨k, ⟨hmissing, before, after, hsplit, hbefore⟩, herror⟩

end Router
end Patchbay
