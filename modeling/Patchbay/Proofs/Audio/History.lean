import Mathlib.Data.List.Induction
import Patchbay.Audio.Bench
/-!
# What was done with a bench

A bench is used by building streams on it, playing, pausing and dropping them, and driving blocks through them. What is
to be found on it can be read off such a history: a stream counts from the attempt that built it until it is dropped
(`held`), and it plays if the latest play or pause with an effect was a play (`Built.plays`). One more operation adds to
what was done since every stream was built, and may build another (`held_concat`).
-/

namespace Patchbay.Audio.Bench

variable {σ : Type}

/-! ## Using a bench -/

/-- What is done with a bench. Streams go by their numbers. -/
inductive Op (σ : Type) where
  | buildInput (run : List Single → σ → σ)
  | buildOutput (run : List Single → σ → List Single × σ)
  | play (number : Nat)
  | pause (number : Nat)
  | drop (number : Nat)
  | inject (failure : Failure)
  | driveInput (block : List Single)
  | driveOutput (block : List Single)

inductive Answer where
  | done
  | built (result : Except AudioError Nat)
  /-- None if there is no such stream. -/
  | switched (result : Option (Except AudioError Unit))
  | ran (callbacks : Nat) (block : List Single)

/-- One operation, with the state that the callbacks work on. -/
def op (b : Bench σ) (s : σ) : Op σ → Answer × Bench σ × σ
  | .buildInput run =>
    let (result, b) := b.buildInput run
    (.built result, b, s)
  | .buildOutput run =>
    let (result, b) := b.buildOutput run
    (.built result, b, s)
  | .play number =>
    match b.stream? number with
    | none => (.switched none, b, s)
    | some stream =>
      let (result, b, s) := b.play stream s
      (.switched (some result), b, s)
  | .pause number =>
    match b.stream? number with
    | none => (.switched none, b, s)
    | some stream =>
      let (result, b, s) := b.pause stream s
      (.switched (some result), b, s)
  | .drop number => (.done, b.drop number, s)
  | .inject failure => (.done, b.inject failure, s)
  | .driveInput block =>
    let (ran, s) := b.driveInput block s
    (.ran ran block, b, s)
  | .driveOutput block =>
    let (ran, block, s) := b.driveOutput block s
    (.ran ran block, b, s)

def ops (b : Bench σ) (s : σ) : List (Op σ) → List Answer × Bench σ × σ
  | [] => ([], b, s)
  | o :: rest =>
    let (answer, b, s) := b.op s o
    let (answers, b, s) := b.ops s rest
    (answer :: answers, b, s)

/-! ## Reading a history -/

/-- An attempt to build a stream: its callback, and the failures that keep it from being built and from playing. -/
structure Attempt (σ : Type) where
  callback : Callback σ
  onBuild : Failure
  onPlay : Failure

def Op.attempt? : Op σ → Option (Attempt σ)
  | .buildInput run => some ⟨.input run, .buildInput, .playInput⟩
  | .buildOutput run => some ⟨.output run, .buildOutput, .playOutput⟩
  | _ => none

def Op.injects (failure : Failure) : Op σ → Bool
  | .inject f => f = failure
  | _ => false

def Op.drops (number : Nat) : Op σ → Bool
  | .drop n => n = number
  | _ => false

def attemptsIn (history : List (Op σ)) : Nat := history.countP (·.attempt?.isSome)

def injectedIn (history : List (Op σ)) (failure : Failure) : Bool := history.any (·.injects failure)

/-- A stream that was built, and what was done since. -/
structure Built (σ : Type) where
  number : Nat
  callback : Callback σ
  /-- Whether a failure to play had been injected by then. -/
  failsToPlay : Bool
  since : List (Op σ)

namespace Built

def isHeld (t : Built σ) : Bool := !t.since.any (·.drops t.number)

/-- What an operation makes of a stream that has not been dropped: it plays, or it does not. None if it changes
nothing: it is about something else, or it fails. -/
def switch? (habits : Habits) (t : Built σ) : Op σ → Option Bool
  | .play n => if n = t.number ∧ t.failsToPlay = false then some true else none
  | .pause n => if n = t.number ∧ habits.pauseFails = false then some false else none
  | _ => none

/-- Whether the latest play or pause with an effect was a play. -/
def plays (habits : Habits) (t : Built σ) : Bool := (t.since.reverse.findSome? (t.switch? habits)).getD false

/-- The stream as it is to be found in the registry. -/
def stream (habits : Habits) (t : Built σ) : Stream σ :=
  { number := t.number, callback := some t.callback, playing := t.plays habits, failsToPlay := t.failsToPlay }

def andThen (o : Op σ) (t : Built σ) : Built σ := { t with since := t.since ++ [o] }

end Built

/-- What an attempt builds if it succeeds. It is numbered by the attempts before, failed ones included. -/
def Attempt.built (attempt : Attempt σ) (before since : List (Op σ)) : Built σ :=
  { number := attemptsIn before, callback := attempt.callback, failsToPlay := injectedIn before attempt.onPlay, since }

/-- The stream that an operation builds, unless it is no attempt or the attempt fails. -/
def builds (before : List (Op σ)) (o : Op σ) (since : List (Op σ)) : Option (Built σ) :=
  match o.attempt? with
  | none => none
  | some attempt =>
    if injectedIn before attempt.onBuild then none else some (attempt.built before since)

def builtFrom (before : List (Op σ)) : List (Op σ) → List (Built σ)
  | [] => []
  | o :: rest => (builds before o rest).toList ++ builtFrom (before ++ [o]) rest

/-- The streams that were built, in the order of building. -/
def built (history : List (Op σ)) : List (Built σ) := builtFrom [] history

/-- Those that were not dropped. -/
def held (history : List (Op σ)) : List (Built σ) := (built history).filter Built.isHeld

/-- What was done since the latest stream was built. -/
def sinceRegistration (history : List (Op σ)) : List (Op σ) :=
  match (built history).getLast? with
  | none => history
  | some latest => latest.since

/-- What was done until the latest stream was built, this included. -/
def atRegistration (history : List (Op σ)) : List (Op σ) :=
  history.take (history.length - (sinceRegistration history).length)

/-- Streams that were there when the latest one was built, and were dropped since. -/
def droppedLately (history : List (Op σ)) : List (Built σ) :=
  (held (atRegistration history)).filter fun t => (sinceRegistration history).any (·.drops t.number)

/-- The input callbacks among some streams. -/
def inputsOf (streams : List (Built σ)) : List (List Single → σ → σ) :=
  streams.filterMap fun t => match t.callback with
    | .input run => some run
    | .output _ => none

/-- The output callbacks among some streams. -/
def outputsOf (streams : List (Built σ)) : List (List Single → σ → List Single × σ) :=
  streams.filterMap fun t => match t.callback with
    | .input _ => none
    | .output run => some run

section Concat
variable {habits : Habits} {history : List (Op σ)} {o : Op σ} {t : Built σ}

theorem builds_eq_some_iff {since : List (Op σ)} : builds history o since = some t ↔
    ∃ attempt, o.attempt? = some attempt ∧ injectedIn history attempt.onBuild = false ∧
      t = attempt.built history since := by
  unfold builds
  cases o.attempt? with
  | none => simp
  | some attempt =>
    by_cases h : injectedIn history attempt.onBuild = true
    · simp [h]
    · simp only [h, Bool.false_eq_true, if_false, Option.some.injEq, exists_eq_left', true_and]
      exact eq_comm

/-- An attempt does nothing else. -/
theorem quiet_of_attempt {attempt : Attempt σ} (h : o.attempt? = some attempt) :
    (∀ number, o.drops number = false) ∧ (∀ failure, o.injects failure = false) ∧
      ∀ (habits : Habits) (t : Built σ), t.switch? habits o = none := by
  cases o with
  | buildInput run => exact ⟨fun _ => rfl, fun _ => rfl, fun _ _ => rfl⟩
  | buildOutput run => exact ⟨fun _ => rfl, fun _ => rfl, fun _ _ => rfl⟩
  | _ => simp [Op.attempt?] at h

theorem builds_concat (before since : List (Op σ)) (o o' : Op σ) :
    builds before o (since ++ [o']) = (builds before o since).map (Built.andThen o') := by
  unfold builds
  split
  · rfl
  · split <;> rfl

theorem builtFrom_concat (before history : List (Op σ)) (o : Op σ) :
    builtFrom before (history ++ [o]) =
      (builtFrom before history).map (Built.andThen o) ++ (builds (before ++ history) o []).toList := by
  induction history generalizing before with
  | nil => simp [builtFrom]
  | cons o' history ih =>
    rw [List.cons_append, builtFrom, builtFrom, builds_concat, ih]
    cases builds before o' history <;> simp

theorem built_concat : built (history ++ [o]) = (built history).map (Built.andThen o) ++ (builds history o []).toList :=
  builtFrom_concat [] history o

theorem attemptsIn_concat : attemptsIn (history ++ [o]) = attemptsIn history + if o.attempt?.isSome then 1 else 0 := by
  simp [attemptsIn, List.countP_append, List.countP_singleton]

theorem injectedIn_concat (failure : Failure) :
    injectedIn (history ++ [o]) failure = (injectedIn history failure || o.injects failure) := by
  simp [injectedIn]

theorem isHeld_andThen : (t.andThen o).isHeld = (t.isHeld && !o.drops t.number) := by
  simp [Built.isHeld, Built.andThen]

theorem plays_andThen : (t.andThen o).plays habits = (t.switch? habits o).getD (t.plays habits) := by
  have hsame : (t.andThen o).switch? habits = t.switch? habits := by
    funext o'
    cases o' <;> rfl
  unfold Built.plays
  rw [hsame, Built.andThen, List.reverse_append, List.reverse_singleton, List.singleton_append, List.findSome?_cons]
  cases t.switch? habits o <;> rfl

/-- A stream that fails to play never does. -/
theorem Built.plays_of_failsToPlay (t : Built σ) (habits : Habits) (h : t.failsToPlay = true) :
    t.plays habits = false := by
  have hnever : ∀ o ∈ t.since.reverse, t.switch? habits o ≠ some true := by
    intro o _
    cases o <;> simp [switch?, h]
  cases hlatest : t.since.reverse.findSome? (t.switch? habits) with
  | none => rw [plays, hlatest, Option.getD_none]
  | some playing =>
    obtain ⟨o, ho, hswitch⟩ := List.exists_of_findSome?_eq_some hlatest
    rw [plays, hlatest, Option.getD_some]
    cases playing with
    | false => rfl
    | true => exact absurd hswitch (hnever o ho)

theorem held_concat : held (history ++ [o]) =
    ((held history).filter fun t => !o.drops t.number).map (Built.andThen o) ++ (builds history o []).toList := by
  have hnew : (builds history o []).toList.filter Built.isHeld = (builds history o []).toList := by
    rw [List.filter_eq_self]
    intro t ht
    unfold builds at ht
    split at ht
    · simp at ht
    · split at ht <;> simp at ht
      subst ht
      rfl
  unfold held
  rw [built_concat, List.filter_append, hnew, List.filter_map, List.filter_filter]
  congr 2
  apply List.filter_congr
  intro t _
  rw [Function.comp_apply, isHeld_andThen, Bool.and_comm]

theorem stream_andThen : (t.andThen o).stream habits =
    { t.stream habits with playing := (t.switch? habits o).getD (t.plays habits) } := by
  rw [Built.stream, plays_andThen]
  rfl

theorem sinceRegistration_concat (hnone : builds history o [] = none) :
    sinceRegistration (history ++ [o]) = sinceRegistration history ++ [o] := by
  unfold sinceRegistration
  rw [built_concat, hnone, Option.toList_none, List.append_nil, List.getLast?_map]
  cases (built history).getLast? <;> rfl

theorem sinceRegistration_built {new : Built σ} (hnew : builds history o [] = some new) :
    sinceRegistration (history ++ [o]) = [] := by
  obtain ⟨attempt, -, -, rfl⟩ := builds_eq_some_iff.1 hnew
  unfold sinceRegistration
  rw [built_concat, hnew, Option.toList_some, List.getLast?_concat]
  rfl

theorem atRegistration_concat (hnone : builds history o [] = none) :
    atRegistration (history ++ [o]) = atRegistration history := by
  unfold atRegistration
  rw [sinceRegistration_concat hnone, List.length_append, List.length_append, Nat.add_sub_add_right]
  exact List.take_append_of_le_length (Nat.sub_le ..)

theorem atRegistration_built {new : Built σ} (hnew : builds history o [] = some new) :
    atRegistration (history ++ [o]) = history ++ [o] := by
  rw [atRegistration, sinceRegistration_built hnew, List.length_nil, Nat.sub_zero, List.take_length]

/-- Of the streams that were there when the latest one was built those are held that were not dropped since. -/
theorem held_numbers (history : List (Op σ)) : (held history).map Built.number =
    ((held (atRegistration history)).filter fun t => !(sinceRegistration history).any (·.drops t.number)).map
      Built.number := by
  induction history using List.reverseRecOn with
  | nil => rfl
  | append_singleton history o ih =>
    cases hbuilds : builds history o [] with
    | some new =>
      have hall : ((held (history ++ [o])).filter fun t => !([] : List (Op σ)).any (·.drops t.number)) =
          held (history ++ [o]) := List.filter_eq_self.2 fun _ _ => rfl
      rw [atRegistration_built hbuilds, sinceRegistration_built hbuilds, hall]
    | none =>
      have hfilter : ∀ ts : List (Built σ), (ts.filter fun t => !o.drops t.number).map Built.number =
          (ts.map Built.number).filter fun number => !o.drops number := by
        intro ts
        rw [List.filter_map]
        rfl
      rw [held_concat, hbuilds, Option.toList_none, List.append_nil, List.map_map,
        atRegistration_concat hbuilds, sinceRegistration_concat hbuilds]
      change ((held history).filter fun t => !o.drops t.number).map Built.number = _
      rw [hfilter, ih, ← hfilter, List.filter_filter]
      congr 1
      apply List.filter_congr
      intro t _
      rw [List.any_append, List.any_cons, List.any_nil, Bool.or_false, Bool.not_or, Bool.and_comm]

/-- What becomes of the held streams by an operation that builds none. -/
theorem held_streams_concat (hnone : builds history o [] = none) : (held (history ++ [o])).map (Built.stream habits) =
    ((held history).filter fun t => !o.drops t.number).map fun t =>
      { t.stream habits with playing := (t.switch? habits o).getD (t.plays habits) } := by
  rw [held_concat, hnone, Option.toList_none, List.append_nil, List.map_map]
  exact List.map_congr_left fun t _ => stream_andThen

/-- An operation that builds a stream leaves the others as they are. -/
theorem held_streams_built (habits : Habits) {new : Built σ} (hnew : builds history o [] = some new) :
    (held (history ++ [o])).map (Built.stream habits) =
      (held history).map (Built.stream habits) ++ [new.stream habits] := by
  obtain ⟨attempt, hattempt, -, -⟩ := builds_eq_some_iff.1 hnew
  obtain ⟨hdrops, -, hswitch⟩ := quiet_of_attempt hattempt
  have hkept : ((held history).filter fun t => !o.drops t.number) = held history :=
    List.filter_eq_self.2 fun t _ => by rw [hdrops]; rfl
  rw [held_concat, hnew, hkept, List.map_append, List.map_map]
  congr 1
  refine List.map_congr_left fun t _ => ?_
  rw [Function.comp_apply, stream_andThen, hswitch]
  rfl

end Concat

end Patchbay.Audio.Bench
