import Mathlib.Data.List.TakeWhile
import Patchbay.Proofs.Router.Runs
/-!
# The counters of the last run

A router shows the counters of the run that it is in, and once it is stopped those of the last run that began.
`lastRun` reads off a history which one that is, and `Beginning.total` what it counted, by an account that knows neither
ring nor state: every callback since the start counts, those included that ran while the streams were first played, and
none does once the route is stopped. `stats_ops` keeps the router to that from operation to operation, as far as words
of 64 bits go, and `counters_are_of_the_last_run` adds what starting and stopping leave alone.
-/

namespace Patchbay.Router

open Audio

variable {r : Router} {route : Route}

/-! ## One run -/

/-- From a start that succeeds to the next stop the counters are those of the account. -/
theorem Idle.stats_run (h : Idle r) {sinkLabel : String} (hstart : (r.start sinkLabel).1 = .ok ()) {acts : List Op}
    (hacts : .stop ∉ acts) :
    ∃ source sink format, r.resolve sinkLabel = .ok (source, sink, format) ∧
      ((r.start sinkLabel).2.ops acts).2.stats = .of ((r.account format acts).count format.channels.toNat) := by
  obtain ⟨route, -, hends, hres, hpos, hholds, -⟩ := h.run hstart hacts
  exact ⟨_, _, _, hres, (stats_running hends.active).trans (hholds.stats hpos)⟩

/-- A start that fails leaves what the last run counted. -/
theorem Idle.stats_refused (h : Idle r) {sinkLabel : String} {e : AudioError}
    (hrefused : (r.start sinkLabel).1 = .error e) : (r.start sinkLabel).2.stats = r.stats := by
  rw [start_unbound h.active] at hrefused ⊢
  rcases setup_cases (r := r.starting) h.quiet sinkLabel with ⟨-, route, r', hsetup, -⟩ | ⟨e', r', -, hsetup, hkeeps, -⟩
  · rw [hsetup] at hrefused
    cases hrefused
  · rw [hsetup, stats_idle h.active]
    have hactive : r'.active = none := hkeeps.active.trans h.active
    exact (stats_idle (r := (r'.enter .error).enter .stopped) hactive).trans hkeeps.lastStats

/-- Of what the callbacks share a stop changes the state, and nothing else. What is played meanwhile is silence. -/
theorem AtRest.stop_quietly (h : AtRest r) : r.stop.stats = r.stats ∧ r.stop.live = { r.live with state := .stopped } ∧
    ∀ block ∈ heardSince r.bench r.stop.bench, Silent block := by
  rcases h with hidle | ⟨route, hruns⟩
  · rw [stop_unbound hidle.active, heardSince, List.drop_length, ← hidle.state]
    exact ⟨rfl, rfl, fun _ hblock => absurd hblock List.not_mem_nil⟩
  · obtain ⟨r', hstop, -, -, hlive, hsilent⟩ := hruns.stop_eq
    refine ⟨hruns.stop.2, ?_, ?_⟩
    · rw [hstop]
      exact congrArg (fun live : Live => { live with state := .stopped }) hlive
    · rw [hstop]
      exact hsilent

/-! ## The last run of a history -/

/-- Where a run began: the router then and the sink that was asked for, and what was done since. -/
structure Beginning where
  router : Router
  sinkLabel : String
  since : List Op

/-- What the run counted, as its account has it. Nothing counts that was done after a stop. -/
def Beginning.total (b : Beginning) : Counter → Nat :=
  match b.router.resolve b.sinkLabel with
  | .ok (_, _, format) => (b.router.account format (b.since.takeWhile (· ≠ .stop))).count format.channels.toNat
  | .error _ => fun _ => 0

def Beginning.stats (b : Beginning) : Stats := .of b.total

/-- The run that an operation begins, if it is a start and succeeds. -/
def begins (r : Router) (since : List Op) : Op → Option Beginning
  | .start sinkLabel =>
    match (r.start sinkLabel).1 with
    | .ok _ => some { router := r, sinkLabel, since }
    | .error _ => none
  | _ => none

/-- The last run that began, if any did. -/
def lastRun (r : Router) : List Op → Option Beginning
  | [] => none
  | o :: rest => ((r.op o).2.lastRun rest).or (r.begins rest o)

/-- What was counted in the last run of a history. -/
def counted (r : Router) (history : List Op) : Counter → Nat :=
  (r.lastRun history).elim (fun _ => 0) Beginning.total

theorem begins_of_running (h : Runs r route) (since : List Op) (o : Op) : r.begins since o = none := by
  cases o with
  | start sinkLabel => rw [begins, start_bound h.active]
  | _ => rfl

/-- An operation on an idle router begins a run, or leaves the router idle with the counters it had. -/
theorem Idle.begins_or (h : Idle r) (since : List Op) (o : Op) :
    (∃ sinkLabel, o = .start sinkLabel ∧ (r.start sinkLabel).1 = .ok () ∧
        r.begins since o = some { router := r, sinkLabel, since } ∧ ∃ route, Runs (r.op o).2 route) ∨
      (r.begins since o = none ∧ Idle (r.op o).2 ∧ (r.op o).2.stats = r.stats) := by
  by_cases ho : ∃ sinkLabel, o = .start sinkLabel
  · obtain ⟨sinkLabel, rfl⟩ := ho
    rcases h.start sinkLabel with ⟨-, route, live, hok, hruns, -⟩ | ⟨e, -, herror, hidle, -⟩
    · exact .inl ⟨sinkLabel, rfl, hok, by rw [begins, hok], route, hruns⟩
    · exact .inr ⟨by rw [begins, herror], hidle, h.stats_refused herror⟩
  · have hidle := h.stays (not_exists.1 ho)
    refine .inr ⟨?_, hidle, ?_⟩
    · cases o with
      | start sinkLabel => exact absurd ⟨sinkLabel, rfl⟩ ho
      | _ => rfl
    · rw [stats_idle hidle.active, stats_idle h.active]
      cases o with
      | start sinkLabel => exact absurd ⟨sinkLabel, rfl⟩ ho
      | stop => exact congrArg lastStats (stop_unbound h.active)
      | _ => rfl

/-- The counters are those of the last run that began, and if none did they are what they were: on an idle router
at once, on a running one once it is stopped. -/
theorem stats_ops (os : List Op) :
    (∀ {r : Router}, Idle r → (r.ops os).2.stats = (r.lastRun os).elim r.stats Beginning.stats) ∧
      ∀ {r : Router} {route : Route}, Runs r route → (r.ops os).2.stats =
        (r.lastRun os).elim (r.ops (os.takeWhile (· ≠ .stop))).2.stats Beginning.stats := by
  induction os with
  | nil => exact ⟨fun _ => rfl, fun _ => rfl⟩
  | cons o os ih =>
    obtain ⟨ihIdle, ihRuns⟩ := ih
    have hor : ∀ (a b : Option Beginning) (s : Stats),
        (a.or b).elim s Beginning.stats = a.elim (b.elim s Beginning.stats) Beginning.stats := by
      rintro (_ | _) _ _ <;> rfl
    refine ⟨fun {r} hidle => ?_, fun {r route} hruns => ?_⟩
    · rcases hidle.begins_or os o with ⟨sinkLabel, rfl, hok, hbegins, route, hruns⟩ | ⟨hnone, hidle', hstats⟩
      · have hacts : .stop ∉ os.takeWhile (· ≠ .stop) := fun hmem => by
          have := List.mem_takeWhile_imp hmem
          simp at this
        obtain ⟨source, sink, format, hres, hrun⟩ := hidle.stats_run hok hacts
        have hfirst : ((r.op (.start sinkLabel)).2.ops (os.takeWhile (· ≠ .stop))).2.stats =
            Beginning.stats { router := r, sinkLabel, since := os } := by
          rw [Beginning.stats, Beginning.total, hres]
          exact hrun
        rw [lastRun, hor, hbegins, Option.elim_some, ← hfirst]
        exact ihRuns hruns
      · rw [lastRun, hor, hnone, Option.elim_none, ← hstats]
        exact ihIdle hidle'
    · rw [lastRun, hor, begins_of_running hruns, Option.elim_none]
      by_cases ho : o = .stop
      · subst ho
        obtain ⟨hidle', hstats⟩ := hruns.stop
        rw [List.takeWhile_cons_of_neg (by simp), show (r.ops []).2.stats = r.stats from rfl, ← hstats]
        exact ihIdle hidle'
      · rw [List.takeWhile_cons_of_pos (by simpa using ho)]
        exact ihRuns (hruns.op ho).1

/-! ## A history that goes on -/

/-- More was done since. -/
def Beginning.extend (b : Beginning) (more : List Op) : Beginning := { b with since := b.since ++ more }

theorem begins_append (r : Router) (since more : List Op) (o : Op) :
    r.begins (since ++ more) o = (r.begins since o).map (·.extend more) := by
  cases o with
  | start sinkLabel =>
    rw [begins, begins]
    cases (r.start sinkLabel).1 <;> rfl
  | _ => rfl

theorem lastRun_append (r : Router) (os more : List Op) :
    r.lastRun (os ++ more) = ((r.ops os).2.lastRun more).or ((r.lastRun os).map (·.extend more)) := by
  induction os generalizing r with
  | nil => exact Option.or_none.symm
  | cons o os ih =>
    have hlast : (r.op o).2.lastRun (os ++ more) =
        ((r.ops (o :: os)).2.lastRun more).or (((r.op o).2.lastRun os).map (·.extend more)) := ih _
    rw [List.cons_append, lastRun, hlast, begins_append, lastRun, Option.map_or, Option.or_assoc]

/-- While a route runs, no other begins. -/
theorem Runs.lastRun (h : Runs r route) {acts : List Op} (hacts : .stop ∉ acts) : r.lastRun acts = none := by
  induction acts generalizing r with
  | nil => rfl
  | cons o acts ih =>
    rw [List.mem_cons, not_or] at hacts
    rw [Router.lastRun, ih (h.op (Ne.symm hacts.1)).1 hacts.2, begins_of_running h, Option.or_none]

theorem Beginning.total_le_extend (b : Beginning) (more : List Op) (k : Counter) :
    b.total k ≤ (b.extend more).total k := by
  obtain ⟨rest, hrest⟩ : b.since.takeWhile (· ≠ .stop) <+: (b.since ++ more).takeWhile (· ≠ .stop) := by
    rw [List.takeWhile_append]
    split
    · rename_i hall
      rw [(List.takeWhile_prefix _).eq_of_length hall]
      exact List.prefix_append ..
    · exact List.prefix_refl _
  have hsince : (b.extend more).since.takeWhile (· ≠ .stop) = b.since.takeWhile (· ≠ .stop) ++ rest := hrest.symm
  have hrouter : (b.extend more).router = b.router := rfl
  have hsink : (b.extend more).sinkLabel = b.sinkLabel := rfl
  rw [total, total, hrouter, hsink, hsince]
  cases b.router.resolve b.sinkLabel with
  | ok found =>
    dsimp only
    rw [account_append]
    exact Passage.count_le_run ..
  | error e => exact Nat.le_refl _

/-- While a route runs no number goes down. -/
theorem Runs.counted_le {made : Router} {history : List Op} (h : Runs (made.ops history).2 route) {acts : List Op}
    (hacts : .stop ∉ acts) (k : Counter) : made.counted history k ≤ made.counted (history ++ acts) k := by
  rw [counted, counted, lastRun_append, h.lastRun hacts, Option.none_or]
  cases made.lastRun history with
  | none => exact Nat.le_refl _
  | some b => exact b.total_le_extend acts k

theorem ops_append (r : Router) (os more : List Op) : (r.ops (os ++ more)).2 = ((r.ops os).2.ops more).2 := by
  induction os generalizing r with
  | nil => rfl
  | cons o os ih => exact ih _

theorem ops_concat (r : Router) (os : List Op) (o : Op) : (r.ops (os ++ [o])).2 = ((r.ops os).2.op o).2 :=
  ops_append r os [o]

theorem stats_counted {made : Router} (hmade : Idle made) (hzero : made.stats = {}) (history : List Op) :
    (made.ops history).2.stats = .of (made.counted history) := by
  rw [(stats_ops history).1 hmade, hzero, counted]
  cases made.lastRun history <;> rfl

/-- Whatever was done to a router, its counters are those of the run that it is in, or of the last one that began;
they are zero if none did. Stopping changes no counter, no sample and no gain, though callbacks may run meanwhile, and
these play silence. A start that fails changes no counter, one that is refused because a route runs changes nothing,
and one that succeeds counts from zero what moves while the streams are first played. While a route runs, what was
counted never goes down, nor does a counter that does not come round in its word. And the status shows the same
counters. -/
theorem counters_are_of_the_last_run (inputs outputs : List DeviceInfo) (habits : Habits)
    (settings : RouteSettings) (history : List Op) :
    let made := Router.make (.make inputs outputs habits) settings
    let r := (made.ops history).2
    r.stats = .of (made.counted history) ∧
    (r.stop.stats = r.stats ∧ r.stop.live = { r.live with state := .stopped } ∧
      ∀ block ∈ heardSince r.bench r.stop.bench, Silent block) ∧
    (∀ sinkLabel e, (r.start sinkLabel).1 = .error e → (r.start sinkLabel).2.stats = r.stats) ∧
    (∀ sinkLabel route, r.active = some route →
      r.start sinkLabel = (.error (.alreadyRunning route.sink.id.label), r)) ∧
    (∀ sinkLabel, (r.start sinkLabel).1 = .ok () → ∃ source sink format,
      r.resolve sinkLabel = .ok (source, sink, format) ∧
      (r.start sinkLabel).2.stats = .of ((r.account format []).count format.channels.toNat)) ∧
    (∀ route acts k, r.active = some route → .stop ∉ acts →
      made.counted history k ≤ made.counted (history ++ acts) k ∧
      (r.ops acts).2.stats = .of (made.counted (history ++ acts)) ∧
      (SameTurn (made.counted history k) (made.counted (history ++ acts) k) →
        r.stats.count k ≤ (r.ops acts).2.stats.count k)) ∧
    r.status.stats = r.stats := by
  intro made r
  have hmade : Idle made := idle_make ..
  have hrest : AtRest r := AtRest.ops (.inl hmade) history
  have hstats : r.stats = .of (made.counted history) := stats_counted hmade rfl history
  refine ⟨hstats, hrest.stop_quietly, ?_, fun sinkLabel route hactive => start_bound hactive _, ?_, ?_, ?_⟩
  · intro sinkLabel e hrefused
    rcases hrest with hidle | ⟨route, hruns⟩
    · exact hidle.stats_refused hrefused
    · rw [start_bound hruns.active]
  · intro sinkLabel hok
    rcases hrest with hidle | ⟨route, hruns⟩
    · exact hidle.stats_run hok (show .stop ∉ ([] : List Op) from List.not_mem_nil)
    · rw [start_bound hruns.active] at hok
      cases hok
  · intro route acts k hactive hacts
    obtain ⟨route', hruns⟩ := hrest.resolve_left fun hidle => by
      rw [hidle.active] at hactive
      cases hactive
    have hle : made.counted history k ≤ made.counted (history ++ acts) k := hruns.counted_le hacts k
    have hlater : (r.ops acts).2.stats = .of (made.counted (history ++ acts)) := by
      rw [← stats_counted hmade rfl (history ++ acts), ops_append]
    refine ⟨hle, hlater, fun hturn => ?_⟩
    rw [hstats, hlater, Stats.count_of, Stats.count_of]
    exact (words_apart hle).2.2 hturn
  · rw [status]
    split <;> rfl

/-- One block after the other is silenced, and each is counted. -/
theorem Idle.underruns_unfed_op {made : Router} (h : Idle made) {sinkLabel : String}
    (hstart : (made.start sinkLabel).1 = .ok ()) (hopening : openingMoves made.bench.habits = []) {block : List Single}
    (hblock : made.settings.channels.toNat ≤ block.length) (n : Nat) :
    let r := (made.ops (.start sinkLabel :: List.replicate n (.output block))).2
    let after := (r.op (.output block)).2
    r.active.isSome = true ∧ after.active.isSome = true ∧ r.stats.underruns = .ofNat n ∧
      after.stats.underruns = .ofNat (n + 1) := by
  intro r after
  obtain ⟨route, hactive, -, hlast⟩ := h.underruns_unfed hstart hopening hblock (Eq.refl (List.replicate n _))
  have hnext := h.underruns_unfed hstart hopening hblock (Eq.refl (List.replicate (n + 1) _))
  rw [List.replicate_succ', ← List.cons_append, ops_concat] at hnext
  obtain ⟨route', hactive', -, hmore⟩ := hnext
  exact ⟨Option.isSome_of_eq_some hactive, Option.isSome_of_eq_some hactive', hlast, hmore⟩

/-- One more block is silenced, and their counter goes from its last value to zero. -/
theorem counter_of_silenced_blocks_goes_down :
    let made := Router.make (.make [Bench.device "In" 1000 2] [Bench.device "Out" 1000 2] .none)
      { bufferLatencyMs := 3 }
    let r := (made.ops (.start "Out" :: List.replicate (2 ^ 64 - 1) (.output [.zero, .zero]))).2
    let after := (r.op (.output [.zero, .zero])).2
    r.active.isSome = true ∧ after.active.isSome = true ∧ r.stats.underruns = .ofNat (2 ^ 64 - 1) ∧
      after.stats.underruns = 0 := by
  intro made
  have hmade : Idle made := idle_make ..
  have hstart : (made.start "Out").1 = .ok () := rfl
  have hopening : openingMoves made.bench.habits = [] := rfl
  have hblock : made.settings.channels.toNat ≤ [Single.zero, .zero].length := Nat.le_refl 2
  have hround : UInt64.ofNat (2 ^ 64 - 1 + 1) = 0 := by decide
  clear_value made
  obtain ⟨hactive, hactive', hlast, hnext⟩ := hmade.underruns_unfed_op hstart hopening hblock (2 ^ 64 - 1)
  exact ⟨hactive, hactive', hlast, hnext.trans hround⟩

/-- The source moves a frame while it is played, then the sink fails to: the frame is in the shared part, and counts
for nothing. -/
example :
    let before := Router.make (.make [Bench.device "In" 1000 2] [Bench.device "Out" 1000 2]
      { Habits.none with onPlay := { input := [{ captured := [.one, .one], played := [] }] } }) { bufferLatencyMs := 3 }
    let r := (before.ops [.inject .playOutput, .start "Out"]).2
    r.live.framesTransferred = 1 ∧ r.stats = {} :=
  ⟨rfl, rfl⟩

end Patchbay.Router
