import Mathlib.Algebra.Group.Nat.Defs
/-!
# Decimal digits

What holds of the digits of a number, for readers that take them one after the other: the number that the digits so far
stand for only grows, and no digit in front is superfluous.
-/

namespace Patchbay.Text

theorem le_ofDigitChars (cs : List Char) (n : Nat) : n ≤ Nat.ofDigitChars 10 cs n := by
  induction cs generalizing n with
  | nil => exact Nat.le_refl n
  | cons c cs ih =>
    rw [Nat.ofDigitChars_cons]
    have := ih (10 * n + (c.toNat - '0'.toNat))
    omega

theorem isDigit_of_mem_toDigits {n : Nat} {c : Char} (h : c ∈ Nat.toDigits 10 n) : c.isDigit = true :=
  Nat.isDigit_of_mem_toDigits (by decide) (by decide) h

/-- Only the digits of zero begin with a zero. -/
theorem head?_toDigits_ne_zero {n : Nat} (h : 0 < n) : (Nat.toDigits 10 n).head? ≠ some '0' := by
  induction n using Nat.base_induction 10 (by decide) with
  | single m hm =>
    rw [Nat.toDigits_of_lt_base hm]
    intro hhead
    exact Nat.ne_of_gt h (Nat.digitChar_eq_zero.1 (Option.some.inj hhead))
  | digit m k hk hm ih =>
    obtain ⟨c, hc⟩ := Option.ne_none_iff_exists'.1 (mt List.head?_eq_none_iff.1 (Nat.toDigits_ne_nil (n := m) (b := 10)))
    rw [← Nat.toDigits_append_toDigits (by decide) hm hk, List.head?_append, hc, Option.some_or, ← hc]
    exact ih hm

end Patchbay.Text
