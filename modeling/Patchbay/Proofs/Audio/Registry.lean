import Mathlib.Data.List.Nodup
import Patchbay.Proofs.Audio.Pruning
/-!
# What a bench has registered

Every operation keeps the registry in agreement with the history of the bench (`Follows.op`): the streams that were
built and not dropped are the ones that are registered, in the order of building, and those play of which the history
says so. Dropped streams that still have their place there were dropped since the latest registration.
-/

namespace Patchbay.Audio.Bench

variable {σ : Type}

/-- The registry is as the history has it. -/
structure Follows (habits : Habits) (history : List (Op σ)) (b : Bench σ) : Prop where
  habits_eq : b.habits = habits
  attempts_eq : b.attempts = attemptsIn history
  failures_eq : ∀ failure, b.failures.contains failure = injectedIn history failure
  live_eq : b.live = (held history).map (Built.stream habits)
  /-- Whatever was there when the latest stream was registered still has its place. -/
  numbers_eq : b.streams.map (·.number) = (held (atRegistration history)).map Built.number
  apart : (b.streams.map (·.number)).Nodup
  below : ∀ t ∈ b.streams, t.number < b.attempts

variable {habits : Habits} {history : List (Op σ)} {b b' : Bench σ} {o : Op σ} {t : Built σ}

theorem follows_make (inputs outputs : List DeviceInfo) (habits : Habits) :
    Follows habits ([] : List (Op σ)) (make inputs outputs habits) where
  habits_eq := rfl
  attempts_eq := rfl
  failures_eq _ := rfl
  live_eq := rfl
  numbers_eq := rfl
  apart := List.nodup_nil
  below _ h := absurd h List.not_mem_nil

/-- What moves while a stream is played or paused is noted, and changes nothing else on the bench. -/
theorem driveAll_eq (b : Bench σ) (moment : Moment) (s : σ) (bursts : List Burst) :
    ∃ driven, (b.driveAll moment s bursts).1 = { b with driven } := by
  induction bursts generalizing b s with
  | nil => exact ⟨b.driven, rfl⟩
  | cons burst bursts ih => exact ih _ _

theorem build_eq (b : Bench σ) (onBuild onPlay : Failure) (callback : Callback σ) :
    b.build onBuild onPlay callback =
      if b.failures.contains onBuild then (.error (.streamBuild injected), { b with attempts := b.attempts + 1 })
      else (.ok b.attempts, { b with
        attempts := b.attempts + 1
        streams := b.live ++ [{ number := b.attempts, callback := some callback, playing := false,
                                failsToPlay := b.failures.contains onPlay }] }) := rfl

/-- A stream keeps its number and its place, whatever is made of it. -/
theorem numbers_modify {f : Stream σ → Stream σ} (hf : ∀ t, (f t).number = t.number) (b : Bench σ) (number : Nat) :
    (b.modify number f).streams.map (·.number) = b.streams.map (·.number) := by
  unfold modify
  rw [List.map_map]
  refine List.map_congr_left fun t _ => ?_
  rw [Function.comp_apply]
  split
  · exact hf t
  · rfl

theorem live_modify {f : Stream σ → Stream σ} (hf : ∀ t, isRegistered (f t) = isRegistered t) (b : Bench σ)
    (number : Nat) : (b.modify number f).live = b.live.map fun t => if t.number = number then f t else t := by
  unfold live modify
  rw [List.filter_map]
  congr 1
  apply List.filter_congr
  intro t _
  rw [Function.comp_apply]
  split
  · exact hf t
  · rfl

theorem live_drop (b : Bench σ) (number : Nat) : (b.drop number).live = b.live.filter (·.number ≠ number) := by
  unfold live drop modify
  induction b.streams with
  | nil => rfl
  | cons t ts ih =>
    by_cases ht : t.number = number <;> by_cases hr : isRegistered t = true <;>
      simp_all [isRegistered]

/-- Driving streams as they are registered: the inputs among those that play are run, and counted. -/
theorem foldl_inputs (habits : Habits) (streams : List (Built σ)) (block : List Single) (ran : Nat) (s : σ) :
    (streams.map (Built.stream habits)).foldl (fun (ran, s) stream =>
        match stream.playing, stream.callback with
        | true, some (.input run) => (ran + 1, run block s)
        | _, _ => (ran, s)) (ran, s) =
      let runs := inputsOf (streams.filter (·.plays habits))
      (ran + runs.length, runs.foldl (fun s run => run block s) s) := by
  induction streams generalizing ran s with
  | nil => rfl
  | cons t streams ih =>
    rw [List.map_cons, List.foldl_cons, List.filter_cons]
    cases hplays : t.plays habits with
    | false => simp only [Built.stream, hplays, ih, Bool.false_eq_true, if_false]
    | true =>
      cases hcallback : t.callback with
      | input run =>
        simp only [Built.stream, hplays, hcallback, ih, if_true, inputsOf, List.filterMap_cons, List.length_cons,
          List.foldl_cons, Nat.add_assoc, Nat.add_comm 1]
      | output run => simp only [Built.stream, hplays, hcallback, ih, if_true, inputsOf, List.filterMap_cons]

theorem foldl_outputs (habits : Habits) (streams : List (Built σ)) (block : List Single) (ran : Nat) (s : σ) :
    (streams.map (Built.stream habits)).foldl (fun (ran, block, s) stream =>
        match stream.playing, stream.callback with
        | true, some (.output run) => let (block, s) := run block s; (ran + 1, block, s)
        | _, _ => (ran, block, s)) (ran, block, s) =
      let runs := outputsOf (streams.filter (·.plays habits))
      (ran + runs.length, runs.foldl (fun (block, s) run => run block s) (block, s)) := by
  induction streams generalizing ran block s with
  | nil => rfl
  | cons t streams ih =>
    rw [List.map_cons, List.foldl_cons, List.filter_cons]
    cases hplays : t.plays habits with
    | false => simp only [Built.stream, hplays, ih, Bool.false_eq_true, if_false]
    | true =>
      cases hcallback : t.callback with
      | input run => simp only [Built.stream, hplays, hcallback, ih, if_true, outputsOf, List.filterMap_cons]
      | output run =>
        simp only [Built.stream, hplays, hcallback, ih, if_true, outputsOf, List.filterMap_cons, List.length_cons,
          List.foldl_cons, Nat.add_assoc, Nat.add_comm 1]

namespace Follows

theorem unique (h : Follows habits history b) {s t : Stream σ} (hs : s ∈ b.live) (ht : t ∈ b.live)
    (hnumber : s.number = t.number) : s = t :=
  List.inj_on_of_nodup_map h.apart (List.mem_filter.1 hs).1 (List.mem_filter.1 ht).1 hnumber

theorem stream_mem_live (h : Follows habits history b) (ht : t ∈ held history) : t.stream habits ∈ b.live :=
  h.live_eq ▸ List.mem_map_of_mem ht

/-- A stream that is found is the one of its number that is held. -/
theorem eq_of_stream? (h : Follows habits history b) {number : Nat} {stream : Stream σ}
    (hfound : b.stream? number = some stream) (ht : t ∈ held history) (hnumber : t.number = number) :
    t.stream habits = stream := by
  have hn := number_of_stream? hfound
  rw [stream?_eq] at hfound
  exact h.unique (h.stream_mem_live ht) (List.mem_of_find?_eq_some hfound) (hnumber.trans hn.symm)

/-- A held stream is found by its number. -/
theorem stream?_held (h : Follows habits history b) (ht : t ∈ held history) :
    b.stream? t.number = some (t.stream habits) := by
  cases hfound : b.stream? t.number with
  | none =>
    rw [stream?_eq, List.find?_eq_none] at hfound
    exact absurd (decide_eq_true rfl) (hfound _ (h.stream_mem_live ht))
  | some stream => rw [h.eq_of_stream? hfound ht rfl]

/-- An operation that builds no stream: what is to be seen of what it does. -/
theorem next (h : Follows habits history b) (hnone : builds history o [] = none) (hhabits : b'.habits = b.habits)
    (hattempts : b'.attempts = b.attempts + if o.attempt?.isSome then 1 else 0)
    (hfailures : ∀ failure, b'.failures.contains failure = (b.failures.contains failure || o.injects failure))
    (hnumbers : b'.streams.map (·.number) = b.streams.map (·.number))
    (hlive : b'.live = ((held history).filter fun t => !o.drops t.number).map fun t =>
      { t.stream habits with playing := (t.switch? habits o).getD (t.plays habits) }) :
    Follows habits (history ++ [o]) b' where
  habits_eq := hhabits.trans h.habits_eq
  attempts_eq := by rw [hattempts, h.attempts_eq, attemptsIn_concat]
  failures_eq failure := by rw [hfailures, h.failures_eq, injectedIn_concat]
  live_eq := by rw [hlive, held_streams_concat hnone]
  numbers_eq := by rw [hnumbers, h.numbers_eq, atRegistration_concat hnone]
  apart := hnumbers ▸ h.apart
  below t ht := by
    have hmem : t.number ∈ b.streams.map (·.number) := hnumbers ▸ List.mem_map_of_mem ht
    obtain ⟨u, hu, hnumber⟩ := List.mem_map.1 hmem
    have := h.below u hu
    rw [← hnumber, hattempts]
    exact Nat.lt_of_lt_of_le this (Nat.le_add_right ..)

/-- An operation that neither drops a stream nor switches one leaves what is registered alone. -/
theorem next_quiet (h : Follows habits history b) (hnone : builds history o [] = none) (hhabits : b'.habits = b.habits)
    (hattempts : b'.attempts = b.attempts + if o.attempt?.isSome then 1 else 0)
    (hfailures : ∀ failure, b'.failures.contains failure = (b.failures.contains failure || o.injects failure))
    (hstreams : b'.streams = b.streams) (hdrops : ∀ t ∈ held history, o.drops t.number = false)
    (hswitch : ∀ t ∈ held history, t.switch? habits o = none) : Follows habits (history ++ [o]) b' := by
  have hlive : b'.live = b.live := by rw [live, hstreams, live]
  refine h.next hnone hhabits hattempts hfailures (by rw [hstreams]) ?_
  rw [hlive, h.live_eq, List.filter_eq_self.2 fun t ht => by rw [hdrops t ht]; rfl]
  refine List.map_congr_left fun t ht => ?_
  rw [hswitch t ht]
  rfl

/-- Switching a stream, with whatever else is only noted. -/
theorem next_switched (h : Follows habits history b) (stream : Stream σ) {playing : Bool} (driven : List Driven)
    (hnone : builds history o [] = none) (hattempt : o.attempt? = none)
    (hinjects : ∀ failure, o.injects failure = false) (hdrops : ∀ number, o.drops number = false)
    (hswitch : ∀ t ∈ held history, t.switch? habits o = if t.number = stream.number then some playing else none)
    (hb' : b' = { b.modify stream.number (fun t => { t with playing }) with driven }) :
    Follows habits (history ++ [o]) b' := by
  subst hb'
  refine h.next hnone rfl (by rw [hattempt]; rfl) (fun failure => by rw [hinjects, Bool.or_false]; rfl) ?_ ?_
  · exact numbers_modify (f := fun t => { t with playing }) (fun _ => rfl) b stream.number
  · refine (live_modify (f := fun t => { t with playing }) (fun _ => rfl) b stream.number).trans ?_
    rw [h.live_eq, List.map_map, List.filter_eq_self.2 fun t _ => by rw [hdrops]; rfl]
    refine List.map_congr_left fun t ht => ?_
    rw [hswitch t ht, Function.comp_apply]
    by_cases hn : t.number = stream.number
    · rw [if_pos hn]
      exact if_pos hn
    · rw [if_neg hn]
      exact if_neg hn

/-- A stream that is built is registered behind those that were not dropped. -/
theorem next_built (h : Follows habits history b) {new : Built σ} (hnew : builds history o [] = some new) :
    Follows habits (history ++ [o])
      { b with attempts := b.attempts + 1, streams := b.live ++ [new.stream habits] } := by
  obtain ⟨attempt, hattempt, -, rfl⟩ := builds_eq_some_iff.1 hnew
  obtain ⟨-, hinjects, -⟩ := quiet_of_attempt hattempt
  have hregistered : ∀ t ∈ b.live ++ [(attempt.built history []).stream habits], isRegistered t = true := by
    intro t ht
    rcases List.mem_append.1 ht with ht | ht
    · exact (List.mem_filter.1 ht).2
    · rw [List.mem_singleton.1 ht]
      rfl
  exact
    { habits_eq := h.habits_eq
      attempts_eq := by rw [attemptsIn_concat, hattempt, ← h.attempts_eq]; rfl
      failures_eq := fun failure => by
        rw [injectedIn_concat, hinjects, Bool.or_false]
        exact h.failures_eq failure
      live_eq := by rw [held_streams_built habits hnew, ← h.live_eq, live, List.filter_eq_self.2 hregistered]
      numbers_eq := by
        have hstreams := congrArg (List.map fun t : Stream σ => t.number) (held_streams_built habits hnew)
        rw [atRegistration_built hnew, h.live_eq, ← hstreams, List.map_map]
        rfl
      apart := by
        rw [List.map_append, List.nodup_append]
        refine ⟨(List.filter_sublist.map _).nodup h.apart, List.nodup_singleton _, ?_⟩
        rintro number hnumber _ hlast rfl
        obtain ⟨t, ht, rfl⟩ := List.mem_map.1 hnumber
        have := h.below t (List.mem_filter.1 ht).1
        rw [h.attempts_eq] at this
        exact absurd (List.mem_singleton.1 hlast) (Nat.ne_of_lt this)
      below := fun t ht => by
        rcases List.mem_append.1 ht with ht | ht
        · exact Nat.lt_succ_of_lt (h.below t (List.mem_filter.1 ht).1)
        · rw [List.mem_singleton.1 ht]
          exact Nat.lt_succ_of_le (Nat.le_of_eq h.attempts_eq.symm) }

/-- An attempt fails if that was injected, and otherwise gives the number of attempts before. -/
theorem build (h : Follows habits history b) {attempt : Attempt σ} (hattempt : o.attempt? = some attempt) :
    (b.build attempt.onBuild attempt.onPlay attempt.callback).1 =
        (if injectedIn history attempt.onBuild then .error (.streamBuild injected) else .ok (attemptsIn history)) ∧
      Follows habits (history ++ [o]) (b.build attempt.onBuild attempt.onPlay attempt.callback).2 := by
  obtain ⟨hdrops, hinjects, hswitch⟩ := quiet_of_attempt hattempt
  rw [build_eq, h.failures_eq, h.failures_eq]
  by_cases hfails : injectedIn history attempt.onBuild = true
  · rw [if_pos hfails, if_pos hfails]
    refine ⟨rfl, h.next_quiet ?_ rfl ?_ ?_ rfl (fun t _ => hdrops t.number) fun t _ => hswitch habits t⟩
    · rw [builds, hattempt]
      exact if_pos hfails
    · rw [hattempt]
      rfl
    · intro failure
      rw [hinjects, Bool.or_false]
  · rw [if_neg hfails, if_neg hfails]
    have hnew : builds history o [] = some (attempt.built history []) :=
      builds_eq_some_iff.2 ⟨attempt, hattempt, Bool.eq_false_iff.2 hfails, rfl⟩
    refine ⟨by rw [h.attempts_eq], ?_⟩
    have hnext := h.next_built hnew
    rw [Built.stream, Attempt.built, ← h.attempts_eq] at hnext
    exact hnext

theorem play (h : Follows habits history b) {number : Nat} {stream : Stream σ}
    (hfound : b.stream? number = some stream) (s : σ) :
    Follows habits (history ++ [.play number]) (b.play stream s).2.1 := by
  have hnumber : stream.number = number := number_of_stream? hfound
  have hsame : ∀ t ∈ held history, number = t.number → t.failsToPlay = stream.failsToPlay := fun t ht hn =>
    congrArg Stream.failsToPlay (h.eq_of_stream? hfound ht hn.symm)
  unfold Bench.play
  by_cases hfails : stream.failsToPlay = true
  · rw [if_pos hfails]
    refine h.next_quiet rfl rfl rfl (fun _ => (Bool.or_false _).symm) rfl (fun _ _ => rfl) fun t ht => if_neg ?_
    rintro ⟨hn, hplays⟩
    rw [hsame t ht hn, hfails] at hplays
    cases hplays
  · rw [if_neg hfails]
    obtain ⟨driven, hdriven⟩ :=
      driveAll_eq (b.modify stream.number fun t => { t with playing := true }) .play s
        (b.habits.onPlay.of stream.callback)
    refine h.next_switched stream driven rfl rfl (fun _ => rfl) (fun _ => rfl) ?_ hdriven
    intro t ht
    rw [hnumber, Built.switch?]
    by_cases hn : number = t.number
    · rw [if_pos hn.symm, if_pos ⟨hn, (hsame t ht hn).trans (Bool.eq_false_iff.2 hfails)⟩]
    · rw [if_neg (Ne.symm hn), if_neg fun h => hn h.1]

theorem pause (h : Follows habits history b) {number : Nat} {stream : Stream σ}
    (hfound : b.stream? number = some stream) (s : σ) :
    Follows habits (history ++ [.pause number]) (b.pause stream s).2.1 := by
  have hnumber : stream.number = number := number_of_stream? hfound
  obtain ⟨driven, hdriven⟩ := driveAll_eq b .pause s (b.habits.onPause.of stream.callback)
  unfold Bench.pause
  dsimp only
  rw [hdriven]
  by_cases hfails : b.habits.pauseFails = true
  · rw [if_pos hfails]
    rw [h.habits_eq] at hfails
    refine h.next_quiet rfl rfl rfl (fun _ => (Bool.or_false _).symm) rfl (fun _ _ => rfl) fun t ht => if_neg ?_
    rintro ⟨-, hpauses⟩
    rw [hfails] at hpauses
    cases hpauses
  · rw [if_neg hfails]
    rw [h.habits_eq] at hfails
    refine h.next_switched stream driven rfl rfl (fun _ => rfl) (fun _ => rfl) ?_ rfl
    intro t ht
    rw [hnumber, Built.switch?]
    by_cases hn : number = t.number
    · rw [if_pos hn.symm, if_pos ⟨hn, Bool.eq_false_iff.2 hfails⟩]
    · rw [if_neg (Ne.symm hn), if_neg fun h => hn h.1]

theorem drop (h : Follows habits history b) (number : Nat) :
    Follows habits (history ++ [.drop number]) (b.drop number) := by
  refine h.next rfl rfl rfl (fun _ => (Bool.or_false _).symm) ?_ ?_
  · exact numbers_modify (f := fun t => { t with callback := none, playing := false }) (fun _ => rfl) b number
  · rw [live_drop, h.live_eq, List.filter_map]
    have hcongr : (held history).filter ((fun t : Stream σ => decide (t.number ≠ number)) ∘ Built.stream habits) =
        (held history).filter fun t => !(Op.drop number : Op σ).drops t.number := by
      refine List.filter_congr fun t _ => ?_
      rw [Function.comp_apply, Op.drops, ← decide_not]
      exact decide_eq_decide.2 ne_comm
    rw [hcongr]
    exact List.map_congr_left fun t _ => rfl

/-- Every operation takes the registry and the history on alike. -/
theorem op (h : Follows habits history b) (s : σ) (o : Op σ) : Follows habits (history ++ [o]) (b.op s o).2.1 := by
  cases o with
  | buildInput run => exact (h.build (o := .buildInput run) rfl).2
  | buildOutput run => exact (h.build (o := .buildOutput run) rfl).2
  | play number =>
    unfold Bench.op
    dsimp only
    split
    · rename_i hnone
      refine h.next_quiet rfl rfl rfl (fun _ => (Bool.or_false _).symm) rfl (fun _ _ => rfl) fun t ht => if_neg ?_
      rintro ⟨rfl, -⟩
      rw [h.stream?_held ht] at hnone
      cases hnone
    · rename_i stream hfound
      exact h.play hfound s
  | pause number =>
    unfold Bench.op
    dsimp only
    split
    · rename_i hnone
      refine h.next_quiet rfl rfl rfl (fun _ => (Bool.or_false _).symm) rfl (fun _ _ => rfl) fun t ht => if_neg ?_
      rintro ⟨rfl, -⟩
      rw [h.stream?_held ht] at hnone
      cases hnone
    · rename_i stream hfound
      exact h.pause hfound s
  | drop number => exact h.drop number
  | inject failure =>
    refine h.next_quiet rfl rfl rfl ?_ rfl (fun _ _ => rfl) fun _ _ => rfl
    intro f
    simp [Bench.op, Bench.inject, Op.injects, eq_comm]
  | driveInput block =>
    exact h.next_quiet rfl rfl rfl (fun _ => (Bool.or_false _).symm) rfl (fun _ _ => rfl) fun _ _ => rfl
  | driveOutput block =>
    exact h.next_quiet rfl rfl rfl (fun _ => (Bool.or_false _).symm) rfl (fun _ _ => rfl) fun _ _ => rfl

theorem ops (h : Follows habits history b) (s : σ) (os : List (Op σ)) :
    Follows habits (history ++ os) (b.ops s os).2.1 := by
  induction os generalizing history b s with
  | nil => rwa [List.append_nil]
  | cons o os ih =>
    rw [List.append_cons]
    exact ih (h.op s o) _

theorem registered (h : Follows habits history b) : b.registered = (held history).length := by
  rw [registered_eq, h.live_eq, List.length_map]

theorem playing (h : Follows habits history b) : b.playing = (held history).countP (·.plays habits) := by
  rw [playing_eq, h.live_eq, List.countP_map]
  rfl

/-- The dropped streams that have a place in the registry are those that were dropped lately. -/
theorem stale_eq (h : Follows habits history b) :
    b.streams.countP (fun t => !isRegistered t) = (droppedLately history).length := by
  have hstreams := congrArg List.length h.numbers_eq
  have hheld := congrArg List.length (held_numbers history)
  rw [List.length_map, List.length_map] at hstreams hheld
  have hregistered : b.streams.countP isRegistered = (held history).length := h.registered
  have hstale := b.streams.length_eq_countP_add_countP isRegistered
  have hsplit := (held (atRegistration history)).length_eq_countP_add_countP
    fun t => (sinceRegistration history).any (·.drops t.number)
  rw [droppedLately, ← List.countP_eq_length_filter]
  rw [← List.countP_eq_length_filter] at hheld
  simp only [Bool.not_eq_true, Bool.decide_eq_false] at hstale hsplit
  omega

/-- The streams that are there to be driven, in the order of building. -/
theorem streams_prune (h : Follows habits history b) : b.prune.streams = (held history).map (Built.stream habits) :=
  h.live_eq

/-- The playing input callbacks run on a block, one after the other. -/
theorem driveInput (h : Follows habits history b) (block : List Single) (s : σ) :
    b.driveInput block s =
      let runs := inputsOf ((held history).filter (·.plays habits))
      (runs.length, runs.foldl (fun s run => run block s) s) := by
  rw [← driveInput_prune, Bench.driveInput, h.streams_prune]
  refine (foldl_inputs habits ..).trans ?_
  dsimp only
  rw [Nat.zero_add]

/-- The playing output callbacks run one after the other, each on what the one before made of the block. -/
theorem driveOutput (h : Follows habits history b) (block : List Single) (s : σ) :
    b.driveOutput block s =
      let runs := outputsOf ((held history).filter (·.plays habits))
      (runs.length, runs.foldl (fun (block, s) run => run block s) (block, s)) := by
  rw [← driveOutput_prune, Bench.driveOutput, h.streams_prune]
  refine (foldl_outputs habits ..).trans ?_
  dsimp only
  rw [Nat.zero_add]

theorem answer_build (h : Follows habits history b) {attempt : Attempt σ} (hattempt : o.attempt? = some attempt)
    (s : σ) : (b.op s o).1 = .built
      (if injectedIn history attempt.onBuild then .error (.streamBuild injected) else .ok (attemptsIn history)) := by
  rw [← (h.build hattempt).1]
  cases o with
  | buildInput run =>
    cases hattempt
    rfl
  | buildOutput run =>
    cases hattempt
    rfl
  | _ => simp [Op.attempt?] at hattempt

/-- Where a stream is registered, it makes no difference that the registry is pruned first. -/
theorem op_unpruned (h : Follows habits history b) {new : Built σ} (hnew : builds history o [] = some new) (s : σ) :
    Same (b.op s o).2.1 { (b.op s o).2.1 with streams := b.streams ++ [new.stream habits] } := by
  refine ⟨_, rfl, ?_⟩
  have hlive : b.streams.filter isRegistered = (held history).map (Built.stream habits) := h.live_eq
  obtain ⟨attempt, -, -, rfl⟩ := builds_eq_some_iff.1 hnew
  rw [(h.op s o).live_eq, held_streams_built habits hnew, List.filter_append, hlive]
  rfl

theorem answer_play (h : Follows habits history b) (ht : t ∈ held history) (s : σ) :
    (b.op s (.play t.number)).1 =
      .switched (some (if t.failsToPlay then .error (.streamPlay injected) else .ok ())) := by
  unfold Bench.op Bench.play
  dsimp only
  rw [h.stream?_held ht]
  dsimp only [Built.stream]
  split <;> rfl

theorem answer_pause (h : Follows habits history b) (ht : t ∈ held history) (s : σ) :
    (b.op s (.pause t.number)).1 =
      .switched (some (if habits.pauseFails then .error (.streamPlay injected) else .ok ())) := by
  obtain ⟨driven, hdriven⟩ := driveAll_eq b .pause s (b.habits.onPause.of (t.stream habits).callback)
  unfold Bench.op Bench.pause
  dsimp only
  rw [h.stream?_held ht]
  dsimp only
  rw [hdriven, ← h.habits_eq]
  dsimp only
  split <;> rfl

end Follows

/-! ## What is registered and what plays -/

/-- What a bench has registered is what was built on it and not dropped since, and of these the ones play whose latest
play or pause with an effect was a play. A stream can be played for good or not at all, by what was injected when it was
built. Each block runs the callbacks of those that play, once each and in the order of building. The dropped streams
that the registry still holds, or would hold if registering did not prune it, are not seen by anything that is done from
then on; they are as many as were dropped since the latest registration. -/
theorem registry_is_what_was_built_and_not_dropped (inputs outputs : List DeviceInfo) (habits : Habits) (s₀ : σ)
    (history : List (Op σ)) :
    let (b, s) := ((make inputs outputs habits).ops s₀ history).2
    b.registered = (held history).length ∧
    b.playing = (held history).countP (·.plays habits) ∧
    (∀ t ∈ held history, t.failsToPlay = true → t.plays habits = false) ∧
    (∀ o attempt, o.attempt? = some attempt → (b.op s o).1 = .built
      (if injectedIn history attempt.onBuild then .error (.streamBuild injected) else .ok (attemptsIn history))) ∧
    (∀ t ∈ held history, (b.op s (.play t.number)).1 =
      .switched (some (if t.failsToPlay then .error (.streamPlay injected) else .ok ()))) ∧
    (∀ t ∈ held history, (b.op s (.pause t.number)).1 =
      .switched (some (if habits.pauseFails then .error (.streamPlay injected) else .ok ()))) ∧
    (∀ block, b.driveInput block s =
      let runs := inputsOf ((held history).filter (·.plays habits))
      (runs.length, runs.foldl (fun s run => run block s) s)) ∧
    (∀ block, b.driveOutput block s =
      let runs := outputsOf ((held history).filter (·.plays habits))
      (runs.length, runs.foldl (fun (block, s) run => run block s) (block, s))) ∧
    (∀ o new, builds history o [] = some new →
      Same (b.op s o).2.1 { (b.op s o).2.1 with streams := b.streams ++ [new.stream habits] }) ∧
    (∀ c, Same b c →
      c.registered = b.registered ∧ c.playing = b.playing ∧ ∀ more, Alike (b.ops s more) (c.ops s more)) ∧
    b.streams.countP (fun t => !isRegistered t) = (droppedLately history).length := by
  have h : Follows habits history ((make inputs outputs habits).ops s₀ history).2.1 :=
    (follows_make inputs outputs habits).ops s₀ history
  exact ⟨h.registered, h.playing, fun t _ => t.plays_of_failsToPlay habits,
    fun _ _ hattempt => h.answer_build hattempt _, fun _ ht => h.answer_play ht _, fun _ ht => h.answer_pause ht _,
    fun block => h.driveInput block _, fun block => h.driveOutput block _,
    fun _ _ hnew => h.op_unpruned hnew _, fun _ hsame => ⟨hsame.registered, hsame.playing, hsame.ops _⟩, h.stale_eq⟩

/-- The second stream is built while playing fails, the first was built before. -/
example :
    let count : List Single → Nat → Nat := fun _ n => n + 1
    let (b, n) := ((make [] [] .none).ops 0 [.buildInput count, .inject .playInput, .buildInput count, .play 0, .play 1,
      .driveInput []]).2
    b.registered = 2 ∧ b.playing = 1 ∧ n = 1 :=
  ⟨rfl, rfl, rfl⟩

end Patchbay.Audio.Bench
