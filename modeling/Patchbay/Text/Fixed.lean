import Patchbay.Text.Binary
/-!
# Numbers with a fixed number of places

`fixed` writes a binary number with a given number of places after the point, rounded to nearest, a tie
going to the even neighbour.
-/

namespace Patchbay.Text

/-- `m · 2^q · 10^places`, rounded to a whole number. -/
def scaled (places m : Nat) (q : Int) : Nat :=
  match q with
  | .ofNat k => (m * Nat.pow 10 places) <<< k
  | .negSucc k => roundDiv (m * Nat.pow 10 places) (1 <<< (k + 1))

/-- A whole number of units of `10^-places` with its point. -/
def withPoint (places units : Nat) : String :=
  let fraction := toString (units % Nat.pow 10 places)
  let zeros := String.ofList (List.replicate (places - fraction.length) '0')
  toString (units / Nat.pow 10 places) ++ "." ++ zeros ++ fraction

/-- A number with `places` places after the point, at least one. -/
def fixed (places : Nat) : Binary → String
  | .notANumber => "NaN"
  | .infinite negative => if negative then "-inf" else "inf"
  | .finite negative m q => (if negative then "-" else "") ++ withPoint places (scaled places m q)

end Patchbay.Text
