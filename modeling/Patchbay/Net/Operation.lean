import Patchbay.Net.Fault
import Patchbay.Wire.Word
/-!
# Operations that may be interrupted

A signal may interrupt an operation of the system before it has done anything. An `Operation` is what the system does
with one attempt, and `perform` attempts it again and again until it is not interrupted. The system interrupts for a
while only, so sooner or later there is a report.
-/

namespace Patchbay.Net

open Patchbay.Wire

/-- An operation over some state `ω` of the world, with what it is asked for and what it gives. -/
structure Operation (ω α β : Type) where
  /-- Makes one attempt, and reports what came of it. -/
  attempt : α → ω → Except Fault β × ω
  /-- No more interruptions than these are to come. -/
  interruptions : α → ω → Nat
  fewer : ∀ {a w f after}, attempt a w = (.error f, after) → f.kind = .interrupted →
    interruptions a after < interruptions a w

/-- A socket is offered bytes, and says how many of them it takes. -/
abbrev Socket (ω : Type) := Operation ω Bytes Nat

namespace Operation

variable {ω α β : Type}

/-- Attempts an operation until it is not interrupted. -/
def perform (o : Operation ω α β) (a : α) (w : ω) : Except Fault β × ω :=
  match _htried : o.attempt a w with
  | (.ok b, after) => (.ok b, after)
  | (.error f, after) => if _hf : f.kind = .interrupted then o.perform a after else (.error f, after)
  termination_by o.interruptions a w
  decreasing_by exact o.fewer ‹_› ‹_›

instance : CoeFun (Operation ω α β) fun _ => α → ω → Except Fault β × ω := ⟨perform⟩

/-- An operation that is never interrupted. -/
def final (attempt : α → ω → Except Fault β × ω)
    (h : ∀ a w f, (attempt a w).1 = .error f → f.kind ≠ .interrupted) : Operation ω α β where
  attempt
  interruptions _ _ := 0
  fewer htried hf := absurd hf (h _ _ _ (congrArg Prod.fst htried))

section
variable {o : Operation ω α β} {a : α} {w after : ω}

theorem perform_ok {b : β} (h : o.attempt a w = (.ok b, after)) : o a w = (.ok b, after) := by
  rw [perform]
  split
  · rename_i htried
    exact htried.symm.trans h
  · rename_i htried
    cases htried.symm.trans h

theorem perform_again {f : Fault} (h : o.attempt a w = (.error f, after)) (hf : f.kind = .interrupted) :
    o a w = o a after := by
  rw [perform]
  split
  · rename_i htried
    cases htried.symm.trans h
  · rename_i htried
    cases htried.symm.trans h
    rw [dif_pos hf]

theorem perform_error {f : Fault} (h : o.attempt a w = (.error f, after)) (hf : f.kind ≠ .interrupted) :
    o a w = (.error f, after) := by
  rw [perform]
  split
  · rename_i htried
    cases htried.symm.trans h
  · rename_i htried
    cases htried.symm.trans h
    rw [dif_neg hf]

theorem perform_of_final (h : ∀ f, (o.attempt a w).1 = .error f → f.kind ≠ .interrupted) : o a w = o.attempt a w := by
  rcases htried : o.attempt a w with ⟨f | b, after⟩
  · rw [htried] at h
    exact perform_error htried (h f rfl)
  · exact perform_ok htried

end

@[simp] theorem perform_final (attempt : α → ω → Except Fault β × ω)
    (h : ∀ a w f, (attempt a w).1 = .error f → f.kind ≠ .interrupted) (a : α) (w : ω) :
    (final attempt h) a w = attempt a w := perform_of_final (h a w)

end Operation
end Patchbay.Net
