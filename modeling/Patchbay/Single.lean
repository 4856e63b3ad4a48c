/-!
# Single-precision numbers by bit pattern

Samples, volumes and percentages are carried as their 32-bit patterns, so that what goes into a queue
or onto the wire comes out bit for bit, not-a-number patterns included. The order of two numbers is
read off the patterns: without the sign bit a pattern counts up with the magnitude, and both zeros
have magnitude `0`. Arithmetic goes through the hardware type and is rounded to nearest.
-/

namespace Patchbay

/-- A single-precision number, held as its bit pattern. -/
structure Single where
  bits : UInt32
  deriving DecidableEq, Repr, Inhabited

namespace Single

/-- Positive zero, which is also silence. -/
def zero : Single := ⟨0⟩

/-- The number one: unity gain. -/
def one : Single := ⟨0x3f800000⟩

/-- The pattern without its sign bit. -/
def magnitude (x : Single) : Nat := x.bits.toNat % 0x80000000

/-- Whether the sign bit is set. -/
def isSigned (x : Single) : Bool := 0x80000000 ≤ x.bits.toNat

/-- Patterns above that of infinity stand for no number. -/
def isNaN (x : Single) : Bool := 0x7f800000 < x.magnitude

/-- The place of a number in the order of all numbers. Only meaningful when `isNaN` is false. -/
def rank (x : Single) : Int := if x.isSigned then -(x.magnitude : Int) else x.magnitude

/-- `x < y`, false as soon as one side is not a number. -/
def lt (x y : Single) : Bool := !x.isNaN && !y.isNaN && x.rank < y.rank

/-- `x ≤ y`, false as soon as one side is not a number. -/
def le (x y : Single) : Bool := !x.isNaN && !y.isNaN && x.rank ≤ y.rank

/-- Whether the number lies in the unit interval, ends included. Negative zero does. -/
def inUnit (x : Single) : Bool := zero.le x && x.le one

/-- The nearest number of the unit interval. What is not a number stays what it is, and so does
negative zero, which is not below zero. -/
def clampUnit (x : Single) : Single :=
  if x.lt zero then zero else if one.lt x then one else x

/-- Equality of numbers: the two zeros are equal and nothing equals what is not a number. -/
def numEq (x y : Single) : Bool := !x.isNaN && !y.isNaN && x.rank = y.rank

/-- The hardware number of a pattern. -/
def toFloat (x : Single) : Float32 := Float32.ofBits x.bits

/-- The pattern of a hardware number. -/
def ofFloat (f : Float32) : Single := ⟨f.toBits⟩

/-- The product, rounded to single precision. -/
def mul (x y : Single) : Single := ofFloat (x.toFloat * y.toFloat)

/-- `part` as a percentage of `whole`: both are rounded to single precision first, then the part is
multiplied by one hundred and divided. -/
def percent (part whole : UInt32) : Single :=
  ofFloat (part.toFloat32 * 100 / whole.toFloat32)

theorem clampUnit_of_inUnit {x : Single} (h : x.inUnit = true) : x.clampUnit = x := by
  simp only [inUnit, le, Bool.and_eq_true, decide_eq_true_eq] at h
  have h0 : x.lt zero = false := by simp [lt]; intro _ _; omega
  have h1 : one.lt x = false := by simp [lt]; intro _ _; omega
  simp [clampUnit, h0, h1]

/-- A number is clamped into the unit interval. -/
theorem inUnit_clampUnit {x : Single} (h : x.isNaN = false) : x.clampUnit.inUnit = true := by
  unfold clampUnit
  split
  · decide
  · rename_i h0
    split
    · decide
    · rename_i h1
      have hz : zero.isNaN = false := by decide
      have ho : one.isNaN = false := by decide
      simp [lt, h, hz, ho] at h0 h1
      simp [inUnit, le, h, hz, ho, h0, h1]

end Single
end Patchbay
