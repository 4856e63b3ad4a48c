import Patchbay.Proofs.Audio.History
/-!
# Dropped streams in the registry

A dropped stream keeps its place in the registry until the next one is registered. Nothing sees it there: benches that
differ in such streams only (`Same`) answer every operation alike, and go on to differ in such streams only (`Same.op`).
-/

namespace Patchbay.Audio.Bench

variable {σ : Type}

/-- What is registered, in the order of building. -/
def live (b : Bench σ) : List (Stream σ) := b.streams.filter isRegistered

/-- The bench without the dropped streams that still have a place in its registry. -/
def prune (b : Bench σ) : Bench σ := { b with streams := b.live }

section Live
variable (b : Bench σ)

theorem registered_eq : b.registered = b.live.length := List.countP_eq_length_filter

theorem playing_eq : b.playing = b.live.countP (·.playing) := List.countP_filter.symm

theorem stream?_eq (number : Nat) : b.stream? number = b.live.find? (·.number = number) := by
  simp [stream?, live, List.find?_filter, and_comm]

theorem number_of_stream? {b : Bench σ} {number : Nat} {stream : Stream σ}
    (hfound : b.stream? number = some stream) : stream.number = number := by
  rw [stream?_eq] at hfound
  simpa using List.find?_some hfound

theorem driveInput_prune (block : List Single) (s : σ) : b.prune.driveInput block s = b.driveInput block s := by
  unfold driveInput prune live
  rw [List.foldl_filter]
  congr 1
  funext ⟨ran, s⟩ t
  unfold isRegistered
  cases t.callback with
  | none => cases t.playing <;> rfl
  | some callback => rfl

theorem driveOutput_prune (block : List Single) (s : σ) : b.prune.driveOutput block s = b.driveOutput block s := by
  unfold driveOutput prune live
  rw [List.foldl_filter]
  congr 1
  funext ⟨ran, block, s⟩ t
  unfold isRegistered
  cases t.callback with
  | none => cases t.playing <;> rfl
  | some callback => rfl

end Live

/-- Benches that differ in dropped streams only. -/
def Same (b c : Bench σ) : Prop := ∃ streams, c = { b with streams } ∧ streams.filter isRegistered = b.live

/-- Whatever is asked of two benches that differ in dropped streams only, the answer is the same, and they still do. -/
def Alike {α : Type} (x y : α × Bench σ × σ) : Prop := x.1 = y.1 ∧ Same x.2.1 y.2.1 ∧ x.2.2 = y.2.2

namespace Same
variable {b c : Bench σ} (h : Same b c)
include h

theorem prune_eq : b.prune = c.prune := by
  obtain ⟨streams, rfl, hlive⟩ := h
  simp only [prune, live, hlive]

theorem registered : c.registered = b.registered := by
  rw [registered_eq, registered_eq]
  exact congrArg (fun pruned => pruned.streams.length) h.prune_eq.symm

theorem playing : c.playing = b.playing := by
  rw [playing_eq, playing_eq]
  exact congrArg (fun pruned => pruned.streams.countP (·.playing)) h.prune_eq.symm

theorem driveInput (block : List Single) (s : σ) : b.driveInput block s = c.driveInput block s := by
  rw [← driveInput_prune, h.prune_eq, driveInput_prune]

theorem driveOutput (block : List Single) (s : σ) : b.driveOutput block s = c.driveOutput block s := by
  rw [← driveOutput_prune, h.prune_eq, driveOutput_prune]

theorem stream? (number : Nat) : b.stream? number = c.stream? number := by
  obtain ⟨streams, rfl, hlive⟩ := h
  rw [stream?_eq, stream?_eq, live, live, hlive, live]

theorem inject (failure : Failure) : Same (b.inject failure) (c.inject failure) := by
  obtain ⟨streams, rfl, hlive⟩ := h
  exact ⟨streams, rfl, hlive⟩

/-- Building prunes the registry, and then adds to it. -/
theorem build (onBuild onPlay : Failure) (callback : Callback σ) :
    (b.build onBuild onPlay callback).1 = (c.build onBuild onPlay callback).1 ∧
      Same (b.build onBuild onPlay callback).2 (c.build onBuild onPlay callback).2 := by
  obtain ⟨streams, rfl, hlive⟩ := h
  unfold Bench.build
  dsimp only
  split
  · exact ⟨rfl, streams, rfl, hlive⟩
  · exact ⟨rfl, _, rfl, by rw [hlive]; rfl⟩

theorem modify {f : Stream σ → Stream σ} (hf : ∀ t, isRegistered t = false → isRegistered (f t) = false)
    (number : Nat) : Same (b.modify number f) (c.modify number f) := by
  obtain ⟨streams, rfl, hlive⟩ := h
  refine ⟨_, rfl, ?_⟩
  have hsplit : ∀ ts : List (Stream σ), (ts.map fun t => if t.number = number then f t else t).filter isRegistered =
      ((ts.filter isRegistered).map fun t => if t.number = number then f t else t).filter isRegistered := by
    intro ts
    induction ts with
    | nil => rfl
    | cons t ts ih =>
      by_cases ht : isRegistered t = true
      · simp only [List.filter_cons_of_pos ht, List.map_cons, List.filter_cons, ih]
      · have hout : isRegistered (if t.number = number then f t else t) = false := by
          split
          · exact hf t (by simpa using ht)
          · simpa using ht
        simp only [List.filter_cons_of_neg ht, List.map_cons, List.filter_cons, hout, ih, Bool.false_eq_true, if_false]
  rw [hsplit, hlive]
  exact (hsplit b.streams).symm

theorem drive (moment : Moment) (s : σ) (burst : Burst) :
    Same (b.drive moment s burst).1 (c.drive moment s burst).1 ∧
      (b.drive moment s burst).2 = (c.drive moment s burst).2 := by
  simp only [Bench.drive, h.driveInput, h.driveOutput, and_true]
  obtain ⟨streams, rfl, hlive⟩ := h
  exact ⟨streams, rfl, hlive⟩

theorem driveAll (moment : Moment) (s : σ) (bursts : List Burst) :
    Same (b.driveAll moment s bursts).1 (c.driveAll moment s bursts).1 ∧
      (b.driveAll moment s bursts).2 = (c.driveAll moment s bursts).2 := by
  induction bursts generalizing b c s with
  | nil => exact ⟨h, rfl⟩
  | cons burst bursts ih =>
    obtain ⟨hsame, hstate⟩ := h.drive moment s burst
    have hcons : ∀ a : Bench σ, a.driveAll moment s (burst :: bursts) =
        (a.drive moment s burst).1.driveAll moment (a.drive moment s burst).2 bursts := fun _ => rfl
    rw [hcons, hcons, ← hstate]
    exact ih hsame _

theorem habits : c.habits = b.habits := by
  obtain ⟨streams, rfl, hlive⟩ := h
  rfl

theorem play (stream : Stream σ) (s : σ) : Alike (b.play stream s) (c.play stream s) := by
  have hmodify := h.modify (f := fun t => { t with playing := true }) (fun t ht => ht) stream.number
  unfold Bench.play Alike
  split
  · exact ⟨rfl, h, rfl⟩
  · dsimp only
    rw [hmodify.habits]
    exact ⟨rfl, hmodify.driveAll .play s _⟩

theorem pause (stream : Stream σ) (s : σ) : Alike (b.pause stream s) (c.pause stream s) := by
  obtain ⟨hsame, hstate⟩ := h.driveAll .pause s (b.habits.onPause.of stream.callback)
  have hhabits := hsame.habits
  unfold Bench.pause Alike
  rw [h.habits]
  dsimp only
  rw [hhabits]
  split
  · exact ⟨rfl, hsame, hstate⟩
  · exact ⟨rfl, hsame.modify (f := fun t => { t with playing := false }) (fun t ht => ht) stream.number, hstate⟩

/-- No operation tells benches apart that differ in dropped streams only. -/
theorem op (s : σ) (o : Op σ) : Alike (b.op s o) (c.op s o) := by
  cases o with
  | buildInput run =>
    obtain ⟨hresult, hsame⟩ := h.build .buildInput .playInput (.input run)
    exact ⟨congrArg Answer.built hresult, hsame, rfl⟩
  | buildOutput run =>
    obtain ⟨hresult, hsame⟩ := h.build .buildOutput .playOutput (.output run)
    exact ⟨congrArg Answer.built hresult, hsame, rfl⟩
  | play number =>
    unfold Bench.op
    dsimp only
    rw [h.stream? number]
    split
    · exact ⟨rfl, h, rfl⟩
    · rename_i stream _
      obtain ⟨hresult, hrest⟩ := h.play stream s
      exact ⟨congrArg (Answer.switched ∘ some) hresult, hrest⟩
  | pause number =>
    unfold Bench.op
    dsimp only
    rw [h.stream? number]
    split
    · exact ⟨rfl, h, rfl⟩
    · rename_i stream _
      obtain ⟨hresult, hrest⟩ := h.pause stream s
      exact ⟨congrArg (Answer.switched ∘ some) hresult, hrest⟩
  | drop number => exact ⟨rfl, h.modify (fun _ _ => rfl) number, rfl⟩
  | inject failure => exact ⟨rfl, h.inject failure, rfl⟩
  | driveInput block =>
    simp only [Alike, Bench.op, h.driveInput, and_true, true_and]
    exact h
  | driveOutput block =>
    simp only [Alike, Bench.op, h.driveOutput, and_true, true_and]
    exact h

theorem ops (s : σ) (os : List (Op σ)) : Alike (b.ops s os) (c.ops s os) := by
  induction os generalizing b c s with
  | nil => exact ⟨rfl, h, rfl⟩
  | cons o os ih =>
    obtain ⟨hanswer, hsame, hstate⟩ := h.op s o
    obtain ⟨hanswers, hrest⟩ := ih hsame (b.op s o).2.2
    rw [hstate] at hanswers hrest
    refine ⟨?_, ?_⟩
    · simp only [Bench.ops, hanswer, hstate, hanswers]
    · simpa only [Bench.ops, hstate] using hrest

end Same

end Patchbay.Audio.Bench
