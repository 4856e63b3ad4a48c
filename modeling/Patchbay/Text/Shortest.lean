import Patchbay.Text.Fixed
/-!
# Numbers in as few digits as possible

`shortest` writes a double with the fewest digits that read back as it, and of those the ones next to it. It
looks at ever finer grids of decimal numbers: the first grid with a point that rounds to the double has
the fewest digits, and such a point is one of the double's two neighbours on that grid.
-/

namespace Patchbay.Text

/-- A positive number `m · 2^q`, four times the numbers half a unit below and above it, and whether these
read back as the number themselves. Below a power of two a unit is half as large. -/
structure Neighbourhood where
  low : Nat
  high : Nat
  isClosed : Bool

/-- The numbers that read back as the double `m · 2^q`. -/
def neighbourhood (m : Nat) (q : Int) : Neighbourhood :=
  let isEdge := m = 1 <<< (Binary.precision - 1) && q ≠ Binary.leastExponent
  { low := 4 * m - (if isEdge then 1 else 2), high := 4 * m + 2, isClosed := m % 2 = 0 }

/-- The point next to `m · 2^q` on the grid of step `10^k`, if a neighbour of the double there reads back
as it. Of two that are equally near it is the larger. -/
def gridPoint? (m : Nat) (q k : Int) : Option Nat :=
  let near := neighbourhood m q
  let num := Nat.pow 10 (-k).toNat <<< (q - 2).toNat
  let den := Nat.pow 10 k.toNat <<< (2 - q).toNat
  let readsBack (p : Nat) : Bool :=
    if near.isClosed then near.low * num ≤ p * den && p * den ≤ near.high * num
    else near.low * num < p * den && p * den < near.high * num
  let down := 4 * m * num / den
  let isDown := 2 * (4 * m * num % den) < den
  if readsBack down && (isDown || !readsBack (down + 1)) then some down
  else if readsBack (down + 1) then some (down + 1)
  else none

/-- The first point on the grids of step `10^k` and below, `n` of them, with its grid. -/
def firstPoint (m : Nat) (q : Int) : Nat → Int → Nat × Int
  | 0, k => (0, k)
  | n + 1, k =>
    match gridPoint? m q k with
    | some p => (p, k)
    | none => firstPoint m q n (k - 1)

/-- No double has more digits in front of the point. -/
def mostDigits : Nat := 309

/-- No double needs more places after the point. -/
def mostPlaces : Nat := 324 + 17

/-- A number in the fewest digits that read back, without an exponent and with a point. -/
def shortest : Binary → String
  | .notANumber => "NaN"
  | .infinite negative => if negative then "-inf" else "inf"
  | .finite negative m q =>
    let sign := if negative then "-" else ""
    if m = 0 then sign ++ withPoint 1 0
    else
      let (p, k) := firstPoint m q (mostDigits + mostPlaces + 1) mostDigits
      sign ++ (if k < 0 then withPoint (-k).toNat p else withPoint 1 (p * Nat.pow 10 (k.toNat + 1)))

end Patchbay.Text
