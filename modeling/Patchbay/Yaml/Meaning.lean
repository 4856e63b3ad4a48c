import Patchbay.Text.Binary
/-!
# What a plain scalar means

A plain scalar without a tag may be nothing, a truth value or a number; everything else is a text. Readers
of typed values use the parts of this reading, and a writer quotes a text that would be read as something
else.
-/

namespace Patchbay.Yaml

/-- The meaning of a plain scalar. -/
inductive Meaning where
  | null
  | boolean (b : Bool)
  | integer (n : Int)
  /-- A number that is written as no integer, in double precision. -/
  | real (value : Text.Binary)
  | text
  deriving DecidableEq, Repr

namespace Meaning

/-- The spellings of nothing, apart from the empty one. -/
def isNull (cs : List Char) : Bool :=
  ["null", "Null", "NULL", "~"].contains (String.ofList cs)

/-- The spellings of truth values. -/
def boolean? (cs : List Char) : Option Bool :=
  if ["true", "True", "TRUE"].contains (String.ofList cs) then some true
  else if ["false", "False", "FALSE"].contains (String.ofList cs) then some false
  else none

/-- The value of a digit in any base up to sixteen. -/
def digit? (c : Char) : Option Nat :=
  if c.isDigit then some (c.toNat - '0'.toNat)
  else if 'a' ≤ c && c ≤ 'f' then some (c.toNat - 'a'.toNat + 10)
  else if 'A' ≤ c && c ≤ 'F' then some (c.toNat - 'A'.toNat + 10)
  else none

/-- The number that digits of a base stand for. There is at least one. -/
def number? (base : Nat) (cs : List Char) : Option Nat :=
  if cs.isEmpty then none
  else cs.foldlM (fun n c => (digit? c).bind fun d => if d < base then some (n * base + d) else none) 0

/-- Drops one sign in front. -/
def unsigned (cs : List Char) : List Char :=
  match cs with
  | '+' :: rest | '-' :: rest => rest
  | cs => cs

/-- Digits with a superfluous zero in front are no number. -/
def isPadded (cs : List Char) : Bool :=
  match unsigned cs with
  | '0' :: c :: rest => (c :: rest).all Char.isDigit
  | _ => false

/-- A number behind a base that is given by two characters. -/
def prefixed? (cs : List Char) : Option Nat :=
  match cs with
  | '0' :: 'x' :: rest => number? 16 rest
  | '0' :: 'o' :: rest => number? 8 rest
  | '0' :: 'b' :: rest => number? 2 rest
  | _ => none

/-- A number without a sign, or behind a plus, that is less than `bound`. -/
def natural? (bound : Nat) (cs : List Char) : Option Nat :=
  let digits := match cs with
    | '+' :: rest => rest
    | cs => cs
  let value := (prefixed? digits).orElse fun _ => if isPadded cs then none else number? 10 digits
  value.filter (· < bound)

/-- A number behind a minus that is at most `bound`. -/
def negative? (bound : Nat) (cs : List Char) : Option Nat :=
  match cs with
  | '-' :: rest =>
    let value := (prefixed? rest).orElse fun _ => if isPadded cs then none else number? 10 rest
    value.filter (· ≤ bound)
  | _ => none

/-- An integer of at most 128 bits. -/
def integer? (cs : List Char) : Option Int :=
  ((natural? (1 <<< 128) cs).map Int.ofNat).orElse fun _ => (negative? (1 <<< 127) cs).map fun n => -(n : Int)

/-- A decimal number: its sign, the digits in front of the point and behind it, and the exponent. -/
structure Decimal where
  negative : Bool
  whole : List Char
  fraction : List Char
  exponent : Int

/-- Reads an exponent, with its letter. -/
def exponent? (cs : List Char) : Option Int :=
  match cs with
  | [] => some 0
  | c :: rest =>
    if c ≠ 'e' && c ≠ 'E' then none
    else match rest with
      | '-' :: digits => (number? 10 digits).map fun n => -(n : Int)
      | '+' :: digits | digits => (number? 10 digits).map Int.ofNat

/-- Reads a decimal number. It has a digit in front of the point or behind it. -/
def decimal? (cs : List Char) : Option Decimal :=
  let digits := unsigned cs
  let whole := digits.takeWhile Char.isDigit
  let rest := digits.dropWhile Char.isDigit
  let (fraction, rest) := match rest with
    | '.' :: more => (more.takeWhile Char.isDigit, more.dropWhile Char.isDigit)
    | rest => ([], rest)
  if whole.isEmpty && fraction.isEmpty then none
  else (exponent? rest).map fun exponent => { negative := cs.head? = some '-', whole, fraction, exponent }

/-- Decimal numbers of more digits in front of the point are larger than every double. -/
def mostDigits : Int := 320

/-- Decimal numbers with more zeros behind the point are nothing next to every double but zero. -/
def mostZeros : Int := 330

/-- The double next to a decimal number. Where the number of digits does not decide, it is rounded. -/
def Decimal.value (d : Decimal) : Text.Binary :=
  let digits := (d.whole ++ d.fraction).dropWhile (· = '0')
  let exponent := d.exponent - d.fraction.length
  let size := digits.length + exponent
  if digits.isEmpty || size < -mostZeros then .zero d.negative
  else if mostDigits < size then .infinite d.negative
  else
    let m := (number? 10 digits).getD 0
    .nearest d.negative (m * Nat.pow 10 exponent.toNat) (Nat.pow 10 (-exponent).toNat)

/-- The spellings of the numbers that are not finite. -/
def special? (cs : List Char) : Option Text.Binary :=
  let isOneOf (spellings : List String) : Bool := spellings.contains (String.ofList cs)
  if isOneOf [".inf", ".Inf", ".INF", "+.inf", "+.Inf", "+.INF"] then some (.infinite false)
  else if isOneOf ["-.inf", "-.Inf", "-.INF"] then some (.infinite true)
  else if isOneOf [".nan", ".NaN", ".NAN"] then some .notANumber
  else none

/-- A number in double precision. Decimal numbers that are too large for it are none. -/
def real? (cs : List Char) : Option Text.Binary :=
  (special? cs).orElse fun _ => ((decimal? cs).map Decimal.value).filter Text.Binary.isFinite

/-- Reads a plain scalar. -/
def ofPlain (cs : List Char) : Meaning :=
  if cs.isEmpty || isNull cs then .null
  else match boolean? cs with
    | some b => .boolean b
    | none =>
      match integer? cs with
      | some n => .integer n
      | none => if isPadded cs then .text else ((real? cs).map real).getD .text

end Meaning
end Patchbay.Yaml
