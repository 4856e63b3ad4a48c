import Patchbay.Proofs.Router.Runs
/-!
# Starting a route

A start on an idle router succeeds exactly if all its conditions are met, and otherwise it reports the first that is
not, whatever else is missing (`obstacle_eq`). Whatever starts runs at a supported format, so that its callbacks never
work on frames without channels.
-/

namespace Patchbay.Router

open Audio

variable {r r' : Router} {route : Route} {sinkLabel : String}

theorem blocked_eq (r : Router) :
    (blocked r.bench.failures).or (unwatched r.bench.failures) = firstMissing r.needsSteps := by
  simp only [needsSteps, List.map_cons, List.map_nil, firstMissing_cons, needsStep, blocked, unwatched]
  cases r.bench.failures.contains .buildInput <;> cases r.bench.failures.contains .buildOutput <;>
    cases r.bench.failures.contains .playInput <;> cases r.bench.failures.contains .playOutput <;>
    cases r.bench.failures.contains .spawn <;> rfl

/-- A start fails for the first thing that is missing. -/
theorem obstacle_eq (r : Router) (sinkLabel : String) :
    r.obstacle sinkLabel = firstMissing (r.conditions sinkLabel) := by
  rw [obstacle, resolve_eq, conditions]
  cases hsource : r.source? with
  | none =>
    have hmissing : r.needsSource.met = false := by rw [needsSource, hsource]; rfl
    simp only [List.cons_append, firstMissing_cons, hmissing, Bool.false_eq_true, if_false]
  | some source =>
    have hfound : r.needsSource.met = true := by rw [needsSource, hsource]; rfl
    cases hsink : r.sink? sinkLabel with
    | none =>
      have hmissing : (r.needsSink sinkLabel).met = false := by rw [needsSink, hsink]; rfl
      simp only [List.cons_append, firstMissing_cons, hfound, hmissing, Bool.false_eq_true, if_true, if_false]
    | some sink =>
      have hfound' : (r.needsSink sinkLabel).met = true := by rw [needsSink, hsink]; rfl
      simp only [Option.toList_some, List.cons_append, List.nil_append, List.map_cons, List.map_nil, firstMissing_cons,
        hfound, hfound', if_true, negotiate_eq, blocked_eq]
      cases r.needsFormat.met with
      | false => rfl
      | true =>
        cases (r.needsChannels source).met with
        | false => rfl
        | true => cases (r.needsChannels sink).met <;> rfl

theorem needsSteps_met_iff : (∀ k ∈ r.needsSteps, k.met = true) ↔ ∀ step, step ∉ r.bench.failures := by
  simp only [needsSteps, needsStep, List.map_cons, List.map_nil, List.forall_mem_cons, Bool.not_eq_true',
    List.contains_eq_mem, decide_eq_false_iff_not]
  constructor
  · rintro ⟨hbin, hbout, hpin, hpout, hspawn, -⟩ step
    cases step with
    | buildInput => exact hbin
    | buildOutput => exact hbout
    | playInput => exact hpin
    | playOutput => exact hpout
    | spawn => exact hspawn
  · intro h
    exact ⟨h _, h _, h _, h _, h _, nofun⟩

/-- In words: both devices are there, the format asked for can be routed and both have channels enough for it, and
no step fails on request. -/
theorem conditions_met_iff : (∀ k ∈ r.conditions sinkLabel, k.met = true) ↔
    ∃ source sink, r.source? = some source ∧ r.sink? sinkLabel = some sink ∧
      0 < r.settings.sampleRate ∧ (r.settings.channels = 1 ∨ r.settings.channels = 2) ∧
      r.settings.channels ≤ source.maxChannels ∧ r.settings.channels ≤ sink.maxChannels ∧
      ∀ step, step ∉ r.bench.failures := by
  rw [conditions, List.forall_mem_append, needsSteps_met_iff]
  cases hsource : r.source? with
  | none => simp [needsSource, hsource]
  | some source =>
    cases hsink : r.sink? sinkLabel with
    | none => simp [needsSink, hsink]
    | some sink => simp [needsSource, needsSink, needsFormat, needsChannels, hsource, hsink, and_assoc]

/-- Whatever is set up, a mismatch of rates is noted if there is one. -/
theorem rateMismatch_of_setup (h : r.setup sinkLabel = (.ok route, r')) :
    route.rateMismatch = decide (route.source.nominalRate ≠ route.sink.nominalRate) := by
  unfold setup at h
  split at h
  · cases h
  · split at h
    · cases h
    · split at h
      · cases h
      · cases h
        rfl

theorem rateMismatch_of_start (hidle : Idle r) (hok : (r.start sinkLabel).1 = .ok ())
    (hroute : (r.start sinkLabel).2.active = some route) :
    route.rateMismatch = decide (route.source.nominalRate ≠ route.sink.nominalRate) := by
  rw [start_unbound hidle.active] at hok hroute
  rcases hsetup : r.starting.setup sinkLabel with ⟨e | found, r'⟩
  · rw [hsetup] at hok
    cases hok
  · rw [hsetup] at hroute
    cases hroute
    exact rateMismatch_of_setup hsetup

/-- A router that is stopped, after any history, starts exactly if the devices are there, the format asked for can be
routed, both devices have channels enough for it and no step of setting up fails on request, the start of the monitor's
thread included, which comes last; otherwise it reports the first of these conditions that is not met, in this order. The route then runs between these devices at a supported
format, so that both callbacks work on frames that have channels: the channels asked for, 32 bits wide, at the rate of
the source if it has one and the rate asked for otherwise. A mismatch of rates is noted exactly if there is one. -/
theorem start_reports_the_first_thing_missing (h : Reached r) (hstopped : r.live.state = .stopped)
    (sinkLabel : String) :
    let out := r.start sinkLabel
    (out.1 = .ok () ↔
      ∃ source sink, r.source? = some source ∧ r.sink? sinkLabel = some sink ∧
        0 < r.settings.sampleRate ∧ (r.settings.channels = 1 ∨ r.settings.channels = 2) ∧
        r.settings.channels ≤ source.maxChannels ∧ r.settings.channels ≤ sink.maxChannels ∧
        ∀ step, step ∉ r.bench.failures) ∧
    (∀ e, out.1 = .error e ↔ ∃ before k after, r.conditions sinkLabel = before ++ k :: after ∧
      (∀ j ∈ before, j.met = true) ∧ k.met = false ∧ k.error = e) ∧
    (out.1 = .ok () → ∃ route, Runs out.2 route ∧
      r.source? = some route.source ∧ r.sink? sinkLabel = some route.sink ∧
      route.format.channels = r.settings.channels ∧ route.format.bitDepth = 32 ∧
      route.format.sampleRate =
        (if route.source.nominalRate = 0 then r.settings.sampleRate else route.source.nominalRate) ∧
      route.format.isSupported = true ∧ 0 < route.format.channels.toNat ∧
      (route.rateMismatch = true ↔ route.source.nominalRate ≠ route.sink.nominalRate) ∧
      out.2.status.format = some route.format ∧ out.2.status.rateMismatch = route.rateMismatch) := by
  intro out
  have hidle : Idle r := by
    rcases h.cases with hidle | ⟨route, hruns⟩
    · exact hidle
    · cases hstopped.symm.trans hruns.state
  have hobstacle := r.obstacle_eq sinkLabel
  rw [← conditions_met_iff, ← firstMissing_eq_none_iff, ← hobstacle]
  simp only [← firstMissing_eq_some_iff, ← hobstacle]
  rcases hidle.start sinkLabel with ⟨hnone, route, live, hok, hruns, hres, -⟩ | ⟨e, hsome, herror, -⟩
  · rw [hnone, hok]
    refine ⟨iff_of_true rfl rfl, fun e => iff_of_false (fun h => by cases h) fun h => (by cases h), fun _ => ?_⟩
    obtain ⟨hsource, hsink, hformat, -, -, hagreed⟩ := resolve_eq_ok_iff.1 hres
    refine ⟨route, hruns, hsource, hsink, ?_, ?_, ?_, ?_, channels_pos hres, ?_, ?_, ?_⟩
    · rw [← hagreed]; rfl
    · rw [← hagreed]; rfl
    · rw [← hagreed]; rfl
    · rw [← hagreed]
      exact isSupported_formatFor hformat _
    · rw [rateMismatch_of_start hidle hok hruns.active, decide_eq_true_iff]
    · rw [status, hruns.active]
    · rw [status, hruns.active]
  · rw [hsome, herror]
    exact ⟨iff_of_false (fun h => by cases h) fun h => (by cases h), fun e' => by simp, fun h => by cases h⟩

/-- All that is missing is the monitor's thread, and both streams are taken down again. -/
example :
    let r := ((Router.make (.make [Bench.device "In" 48000 2] [Bench.device "Out" 48000 2] .none) {}).ops
      [.inject .spawn]).2
    (r.start "Out").1 = .error (.threadSpawn "monitor" Bench.injected) ∧ (r.start "Out").2.bench.registered = 0 :=
  ⟨rfl, rfl⟩

/-- A mono device is asked to take stereo, where besides the sink cannot be registered and a second device has its
name. -/
theorem narrow_sink_is_reported :
    let r := ((Router.make (.make [Bench.device "In" 0 2] [Bench.device "Out" 44100 1, Bench.device "Out" 48000 2] .none)
      {}).ops [.inject .buildOutput]).2
    Reached r ∧ r.live.state = .stopped ∧
      (r.start "[Mock] Out").1 = .error (.unsupportedFormat "[Mock] Out has 1 channels, route needs 2") := by
  intro r
  have hreached : Reached r := ⟨_, _, _, _, _, rfl⟩
  obtain ⟨-, hfails, -⟩ := start_reports_the_first_thing_missing hreached rfl "[Mock] Out"
  exact ⟨hreached, rfl, (hfails _).2 (firstMissing_eq_some_iff.1 (by decide))⟩

end Patchbay.Router
