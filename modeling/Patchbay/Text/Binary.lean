import Patchbay.Single
/-!
# Binary numbers

A binary number is `m · 2^q` exactly. Bit patterns are read as such numbers, and `nearest` rounds a
quotient to the double next to it, a tie going to the one with an even significand.
-/

namespace Patchbay.Text

/-- A number as its bit pattern describes it. -/
inductive Binary where
  | notANumber
  | infinite (negative : Bool)
  /-- `m · 2^q`, with the sign apart, since zero has one too. -/
  | finite (negative : Bool) (m : Nat) (q : Int)
  deriving DecidableEq, Repr

/-- `num / den` to the nearest whole number, a tie going to the even one. -/
def roundDiv (num den : Nat) : Nat :=
  let down := num / den
  let twice := 2 * (num % den)
  if twice < den ∨ (twice = den ∧ down % 2 = 0) then down else down + 1

namespace Binary

/-- Reads a pattern with `fraction` fraction bits below `exponent` exponent bits and a sign. -/
def ofPattern (exponent fraction bits : Nat) : Binary :=
  let f := bits % (1 <<< fraction)
  let e := (bits >>> fraction) % (1 <<< exponent)
  let negative := (bits >>> (fraction + exponent)) % 2 = 1
  let bias := (1 <<< (exponent - 1)) - 1 + fraction
  if e = (1 <<< exponent) - 1 then if f = 0 then infinite negative else notANumber
  else if e = 0 then finite negative f (1 - (bias : Int))
  else finite negative ((1 <<< fraction) + f) ((e : Int) - (bias : Int))

/-- A single-precision number. -/
def ofSingle (x : Single) : Binary := ofPattern 8 23 x.bits.toNat

/-- A double-precision number. -/
def ofDouble (x : Float) : Binary := ofPattern 11 52 x.toBits.toNat

/-- The bits of a double's significand. -/
def precision : Nat := 53

/-- The exponent of the smallest doubles. -/
def leastExponent : Int := -1074

/-- The exponent of the largest doubles. -/
def mostExponent : Int := 971

/-- Zero. -/
def zero (negative : Bool) : Binary := finite negative 0 leastExponent

/-- Whether this is a number of finite size. -/
def isFinite : Binary → Bool
  | finite .. => true
  | _ => false

/-- `num / den` over `2^q`, rounded to a whole number. -/
def significand (num den : Nat) (q : Int) : Nat := roundDiv (num <<< (-q).toNat) (den <<< q.toNat)

/-- The double next to `num / den`. The quotient lies between two neighbouring powers of two, so that one
of two exponents gives its significand all its bits. -/
def nearest (negative : Bool) (num den : Nat) : Binary :=
  if num = 0 then zero negative
  else
    let guess := max leastExponent ((num.log2 : Int) - den.log2 - precision)
    let whole := (num <<< (-guess).toNat) / (den <<< guess.toNat)
    let q := if 1 <<< precision ≤ whole then guess + 1 else guess
    let m := significand num den q
    let (m, q) := if m = 1 <<< precision then (1 <<< (precision - 1), q + 1) else (m, q)
    if mostExponent < q then infinite negative else finite negative m q

end Binary

/-- What is rounded off is at most half a unit. -/
theorem roundDiv_near (num : Nat) {den : Nat} (h : 0 < den) :
    2 * num ≤ 2 * (roundDiv num den * den) + den ∧ 2 * (roundDiv num den * den) ≤ 2 * num + den := by
  have hd := Nat.div_add_mod num den
  have hm := Nat.mod_lt num h
  rw [Nat.mul_comm] at hd
  simp only [roundDiv]
  split
  · rename_i hc
    omega
  · rename_i hc
    rw [Nat.add_mul]
    omega

end Patchbay.Text
