import Mathlib.Algebra.Group.Nat.Defs
import Mathlib.Logic.Function.Iterate
import Patchbay.Volume.Backoff
/-!
# Longer and longer waits

The wait behind each failure is twice that before it until the longest is reached, and then stays. The factor by which
the first wait is multiplied is a 32-bit word, so it stops growing behind the 32nd power of two; unless the longest wait
is out of its reach, that is never seen (`wait_succ_eq`). `delayInWords` is the delay as it is computed, with a shift that
may find too few places in a word and a product that may be longer than any span of time; it is the delay that is meant
(`delay_eq_inWords`). `waits_double_until_the_longest` says all this of any number of failures in a row.
-/

namespace Patchbay.Volume.Backoff

/-! ## The factor -/

theorem factor_succ {i : Nat} (h : i < 32) : factor (i + 1) = 2 ^ i := by
  rw [factor, if_pos (Nat.succ_le_of_lt h), Nat.add_sub_cancel, Nat.one_shiftLeft]

theorem factor_of_lt {i : Nat} (h : 32 < i) : factor i = 2 ^ 32 - 1 := if_neg (Nat.not_le.2 h)

theorem factor_mono {i j : Nat} (h : i ≤ j) : factor i ≤ factor j := by
  have hpow : ∀ k, k ≤ 32 → 1 <<< (k - 1) ≤ 2 ^ 31 := by
    intro k hk
    rw [Nat.one_shiftLeft]
    exact Nat.pow_le_pow_right (by decide) (by omega)
  unfold factor
  by_cases hj : j ≤ 32
  · rw [if_pos hj, if_pos (Nat.le_trans h hj), Nat.one_shiftLeft, Nat.one_shiftLeft]
    exact Nat.pow_le_pow_right (by decide) (by omega)
  · rw [if_neg hj]
    split
    · exact Nat.le_trans (hpow i ‹_›) (by decide)
    · exact Nat.le_refl _

variable {b : Backoff}

/-! ## The wait behind some failures -/

/-- The wait behind so many failures in a row. -/
def wait (base longest failures : Nat) : Nat := min (base * factor failures) longest

theorem wait_mono (base longest : Nat) {i j : Nat} (h : i ≤ j) : wait base longest i ≤ wait base longest j := by
  have hfactor := Nat.mul_le_mul_left base (factor_mono h)
  rw [wait, wait]
  omega

/-- The wait is that of powers of two without end, unless the longest one is so far away that the largest word does not
lead there. -/
theorem wait_succ_eq {base longest : Nat} (h : base = 0 ∨ longest ≤ base * (2 ^ 32 - 1)) (i : Nat) :
    wait base longest (i + 1) = min (base * 2 ^ i) longest := by
  by_cases hi : i < 32
  · rw [wait, factor_succ hi]
  · rw [wait, factor_of_lt (by omega)]
    rcases h with rfl | h
    · rw [Nat.zero_mul, Nat.zero_mul]
    · have hpow : 2 ^ 32 - 1 ≤ 2 ^ i :=
        Nat.le_trans (Nat.sub_le ..) (Nat.pow_le_pow_right (by decide) (Nat.not_lt.1 hi))
      rw [Nat.min_eq_right h, Nat.min_eq_right (Nat.le_trans h (Nat.mul_le_mul_left base hpow))]

/-! ## Counting failures -/

theorem toNat_failures_recordFailure (b : Backoff) :
    b.recordFailure.failures.toNat = min (b.failures.toNat + 1) (2 ^ 32 - 1) := by
  have hlt := b.failures.toNat_lt
  show (if b.failures.toNat + 1 < UInt32.size then b.failures + 1 else b.failures).toNat = _
  rw [UInt32.size]
  by_cases hroom : b.failures.toNat + 1 < 4294967296
  · rw [if_pos hroom, UInt32.toNat_add, UInt32.toNat_one]
    omega
  · rw [if_neg hroom]
    omega

theorem failures_recordFailure (h : b.failures.toNat < b.maxAttempts.toNat) :
    b.recordFailure.failures.toNat = b.failures.toNat + 1 := by
  have hlt := b.maxAttempts.toNat_lt
  rw [toNat_failures_recordFailure]
  omega

theorem delay_of_ne_zero (h : b.failures.toNat ≠ 0) : b.delay = wait b.base b.longest b.failures.toNat := by
  have hne : b.failures ≠ 0 := by
    intro hzero
    rw [hzero] at h
    exact h rfl
  rw [delay, if_neg hne, wait]

theorem delay_recordFailure (h : b.failures.toNat < b.maxAttempts.toNat) :
    b.recordFailure.delay = wait b.base b.longest (b.failures.toNat + 1) := by
  have hcount := failures_recordFailure h
  rw [delay_of_ne_zero (by omega), hcount]
  rfl

/-- With so many failures in a row since they were last forgotten. -/
def afterFailures (b : Backoff) (k : Nat) : Backoff := recordFailure^[k] b.reset

section Failures
variable (b : Backoff) (k : Nat)

theorem afterFailures_succ : b.afterFailures (k + 1) = (b.afterFailures k).recordFailure :=
  Function.iterate_succ_apply' ..

theorem base_afterFailures : (b.afterFailures k).base = b.base := by
  induction k with
  | zero => rfl
  | succ k ih => rw [afterFailures_succ, recordFailure, ih]

theorem longest_afterFailures : (b.afterFailures k).longest = b.longest := by
  induction k with
  | zero => rfl
  | succ k ih => rw [afterFailures_succ, recordFailure, ih]

theorem toNat_failures_afterFailures : (b.afterFailures k).failures.toNat = min k (2 ^ 32 - 1) := by
  induction k with
  | zero => rfl
  | succ k ih =>
    rw [afterFailures_succ, toNat_failures_recordFailure, ih]
    omega

/-- Once the counter is full the factor does not depend on it any more. -/
theorem delay_afterFailures_succ : (b.afterFailures (k + 1)).delay = wait b.base b.longest (k + 1) := by
  have hcount := toNat_failures_afterFailures b (k + 1)
  rw [delay_of_ne_zero (by omega), base_afterFailures, longest_afterFailures, hcount]
  by_cases hfull : k + 1 ≤ 2 ^ 32 - 1
  · rw [Nat.min_eq_left hfull]
  · rw [wait, wait, factor_of_lt (by omega), factor_of_lt (by omega)]

end Failures

/-! ## The delay in words -/

/-- The longest span of time that can be told: 2^64 seconds but for a nanosecond. -/
def longestSpan : Nat := 2 ^ 64 * 1000000000 - 1

/-- One, moved up by so many binary places, if a word has that many. -/
def shiftedOne? (places : UInt32) : Option UInt32 := if places < 32 then some (1 <<< places) else none

/-- The factor as a word: the largest one if the shift does not fit. -/
def factorWord (failures : UInt32) : UInt32 := (shiftedOne? (failures - 1)).getD 0xFFFFFFFF

/-- A span of time so many times over, as far as there is one. -/
def multiplied (span : Nat) (times : UInt32) : Nat := min (span * times.toNat) longestSpan

/-- The delay as it is computed with words and spans. -/
def delayInWords (b : Backoff) : Nat :=
  if b.failures = 0 then 0 else min (multiplied b.base (factorWord b.failures)) b.longest

theorem toNat_factorWord {failures : UInt32} (h : failures ≠ 0) :
    (factorWord failures).toNat = factor failures.toNat := by
  have hpos : failures.toNat ≠ 0 := fun hzero => h (UInt32.toNat_inj.1 hzero)
  have hlt := failures.toNat_lt
  have hplaces : (failures - 1).toNat = failures.toNat - 1 := by
    rw [UInt32.toNat_sub, UInt32.toNat_one]
    omega
  have hfits_iff : failures - 1 < 32 ↔ failures.toNat - 1 < 32 := hplaces ▸ UInt32.lt_iff_toNat_lt
  rw [factorWord, shiftedOne?]
  by_cases hfits : failures.toNat - 1 < 32
  · have hpow : 2 ^ (failures.toNat - 1) ≤ 2 ^ 31 := Nat.pow_le_pow_right (by decide) (by omega)
    rw [if_pos (hfits_iff.2 hfits), Option.getD_some, UInt32.toNat_shiftLeft, hplaces, UInt32.toNat_one,
      Nat.mod_eq_of_lt hfits, Nat.one_shiftLeft, Nat.mod_eq_of_lt (by omega), ← factor_succ hfits]
    congr 1
    omega
  · rw [if_neg (mt hfits_iff.1 hfits), factor_of_lt (by omega)]
    rfl

/-- Nothing is lost in words: the shift falls back to the largest word where the factor does, and where a product is
longer than any span it is longer than the longest wait. -/
theorem delay_eq_inWords (h : b.longest ≤ longestSpan) : b.delay = b.delayInWords := by
  rw [delay, delayInWords]
  by_cases hzero : b.failures = 0
  · rw [if_pos hzero, if_pos hzero]
  · rw [if_neg hzero, if_neg hzero, multiplied, toNat_factorWord hzero, Nat.min_assoc, Nat.min_eq_right h]

/-- After any number of failures in a row, the wait is at most the longest one, there is none before the first failure,
and a further failure never makes it shorter. The counter stops at the largest word, and the delay as it is computed in
words is the one that is meant, and a span of time. Where the largest word times the first wait reaches the longest one,
each failure doubles the wait, until it is the longest. -/
theorem waits_double_until_the_longest (b : Backoff) (hspan : b.longest ≤ longestSpan) :
    (∀ k, (b.afterFailures k).delay ≤ b.longest) ∧ (b.afterFailures 0).delay = 0 ∧
    (∀ i j, 1 ≤ i → i ≤ j → (b.afterFailures i).delay ≤ (b.afterFailures j).delay) ∧
    (∀ k, (b.afterFailures k).failures.toNat = min k (2 ^ 32 - 1) ∧
      (b.afterFailures k).delay = (b.afterFailures k).delayInWords ∧ (b.afterFailures k).delay ≤ longestSpan) ∧
    (b.base = 0 ∨ b.longest ≤ b.base * (2 ^ 32 - 1) →
      ∀ k, 1 ≤ k → (b.afterFailures k).delay = min (b.base * 2 ^ (k - 1)) b.longest ∧
        (b.afterFailures (k + 1)).delay = min (2 * (b.afterFailures k).delay) b.longest) := by
  have hlongest (k : Nat) : (b.afterFailures k).delay ≤ b.longest :=
    longest_afterFailures b k ▸ delay_le_longest _
  refine ⟨hlongest, rfl, ?_, ?_, ?_⟩
  · intro i j hi hij
    obtain ⟨i, rfl⟩ := Nat.exists_eq_succ_of_ne_zero (Nat.one_le_iff_ne_zero.1 hi)
    obtain ⟨j, rfl⟩ := Nat.exists_eq_succ_of_ne_zero (Nat.one_le_iff_ne_zero.1 (Nat.le_trans hi hij))
    rw [delay_afterFailures_succ, delay_afterFailures_succ]
    exact wait_mono _ _ hij
  · intro k
    refine ⟨toNat_failures_afterFailures b k, delay_eq_inWords ?_, Nat.le_trans (hlongest k) hspan⟩
    rw [longest_afterFailures]
    exact hspan
  · intro hreach k hk
    obtain ⟨i, rfl⟩ := Nat.exists_eq_succ_of_ne_zero (Nat.one_le_iff_ne_zero.1 hk)
    have hdelay (i : Nat) : (b.afterFailures (i + 1)).delay = min (b.base * 2 ^ i) b.longest := by
      rw [delay_afterFailures_succ, wait_succ_eq hreach]
    have hdouble : b.base * 2 ^ (i + 1) = 2 * (b.base * 2 ^ i) := by
      rw [Nat.pow_succ, Nat.mul_comm (2 ^ i), Nat.mul_left_comm]
    refine ⟨hdelay i, ?_⟩
    rw [Nat.succ_eq_add_one, hdelay, hdelay, hdouble]
    omega

/-- With a second to begin with and half a minute at most, the 64th failure in a row is followed by half a minute, as is
the 65th. -/
theorem half_a_minute_behind_many_failures :
    let b := make 1000000000 30000000000 0xFFFFFFFF
    b.longest ≤ longestSpan ∧ b.longest ≤ b.base * (2 ^ 32 - 1) ∧
    (b.afterFailures 64).delay = min (1000000000 * 2 ^ 63) 30000000000 ∧
    (b.afterFailures 65).delay = min (2 * (b.afterFailures 64).delay) 30000000000 := by
  intro b
  have hspan : b.longest ≤ longestSpan := by decide
  have hreach : b.longest ≤ b.base * (2 ^ 32 - 1) := by decide
  obtain ⟨-, -, -, -, hdoubles⟩ := waits_double_until_the_longest b hspan
  exact ⟨hspan, hreach, hdoubles (.inr hreach) 64 (by decide)⟩

end Patchbay.Volume.Backoff
