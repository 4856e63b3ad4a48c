import Patchbay.Net.Operation
/-!
# What comes of an operation

What an operation reports in the end is the report of its last attempt; the attempts before that were interrupted
(`Operation.perform_induction`). Keeping notes of the attempts changes nothing (`Operation.perform_noting`), and where an
interruption leaves the notes as they are, they are those of the last attempt (`Operation.perform_noting_last`).
-/

namespace Patchbay.Net.Operation

variable {ω α β σ : Type} {o : Operation ω α β} {a : α}

/-- What holds of the last attempt, and goes from one attempt back to one that was interrupted before it, holds of the
whole operation. -/
theorem perform_induction {motive : ω → Except Fault β × ω → Prop}
    (last : ∀ w, (∀ f, (o.attempt a w).1 = .error f → f.kind ≠ .interrupted) → motive w (o.attempt a w))
    (again : ∀ w f after out, o.attempt a w = (.error f, after) → f.kind = .interrupted → motive after out →
      motive w out) (w : ω) : motive w (o a w) := by
  induction w using Operation.perform.induct o a with
  | case1 w b after htried =>
    rw [perform_ok htried, ← htried]
    refine last w fun f herror => ?_
    rw [htried] at herror
    cases herror
  | case2 w f after htried hf ih =>
    rw [perform_again htried hf]
    exact again w f after _ htried hf ih
  | case3 w f after htried hf =>
    rw [perform_error htried hf, ← htried]
    refine last w fun f' herror => ?_
    rw [htried] at herror
    cases herror
    exact hf

/-- What every attempt comes to, and several in a row, the operation comes to. -/
theorem perform_trans {R : ω → ω → Prop} (trans : ∀ {w w' w''}, R w w' → R w' w'' → R w w'')
    (h : ∀ w, R w (o.attempt a w).2) (w : ω) : R w (o a w).2 := by
  refine perform_induction (motive := fun w out => R w out.2) (fun w _ => h w) ?_ w
  intro w f after out htried _ hout
  have hbefore := h w
  rw [htried] at hbefore
  exact trans hbefore hout

/-- The operation, with notes of its attempts. -/
def noting (o : Operation ω α β) (note : α → Except Fault β → σ → σ) : Operation (ω × σ) α β where
  attempt a w := ((o.attempt a w.1).1, (o.attempt a w.1).2, note a (o.attempt a w.1).1 w.2)
  interruptions a w := o.interruptions a w.1
  fewer {a w f after} htried hf := by
    obtain ⟨hsaid, hafter⟩ := Prod.mk.inj htried
    rw [← congrArg Prod.fst hafter]
    exact o.fewer (Prod.ext hsaid rfl) hf

theorem perform_noting (note : α → Except Fault β → σ → σ) (w : ω × σ) :
    ((o.noting note a w).1, (o.noting note a w).2.1) = o a w.1 := by
  refine perform_induction (motive := fun w out => (out.1, out.2.1) = o a w.1) (fun w hlast => ?_) ?_ w
  · have hend : o a w.1 = o.attempt a w.1 := perform_of_final hlast
    exact hend.symm
  · intro w f after out htried hf hout
    obtain ⟨hsaid, hafter⟩ := Prod.mk.inj htried
    rw [hout, ← congrArg Prod.fst hafter]
    exact (perform_again (Prod.ext hsaid rfl) hf).symm

/-- Notes that leave out interruptions are of the last attempt. -/
theorem perform_noting_last {note : α → Except Fault β → σ → σ}
    (hskips : ∀ a f notes, f.kind = .interrupted → note a (.error f) notes = notes) (w : ω × σ) :
    o.noting note a w = ((o a w.1).1, (o a w.1).2, note a (o a w.1).1 w.2) := by
  refine perform_induction (o := o.noting note)
    (motive := fun w out => out = ((o a w.1).1, (o a w.1).2, note a (o a w.1).1 w.2)) (fun w hlast => ?_) ?_ w
  · have hend : o a w.1 = o.attempt a w.1 := perform_of_final hlast
    rw [hend]
    rfl
  · intro w f after out htried hf hout
    obtain ⟨hsaid, hafter⟩ := Prod.mk.inj htried
    have hagain : o a w.1 = o a after.1 := by
      rw [← congrArg Prod.fst hafter]
      exact perform_again (Prod.ext hsaid rfl) hf
    have hnotes : after.2 = w.2 := by
      rw [← congrArg Prod.snd hafter, hsaid]
      exact hskips a f w.2 hf
    rw [hagain, ← hnotes]
    exact hout

end Patchbay.Net.Operation
