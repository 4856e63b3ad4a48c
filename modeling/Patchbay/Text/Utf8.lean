/-!
# Text as bytes

`encode` writes text as UTF-8. `decodeLossy` reads any byte string: where the bytes are ill-formed,
the longest beginning of a character that is there becomes one replacement character, and reading goes
on at the byte that broke it. `decode?` reads well-formed bytes only.
-/

namespace Patchbay.Text.Utf8

/-- The UTF-8 bytes of some characters. -/
def encode (cs : List Char) : List UInt8 := cs.flatMap String.utf8EncodeChar

/-- The bytes of a text. -/
def ofString (s : String) : List UInt8 := encode s.toList

/-- What stands where bytes are ill-formed. -/
def replacement : Char := '\uFFFD'

/-- Bytes that continue a character. -/
def isTail (b : UInt8) : Bool := 0x80 ≤ b && b ≤ 0xBF

/-- How many bytes follow a first byte, and between which bounds the first of them lies: the bounds
shut out spellings that are too long, surrogates and code points past the last one. -/
def lead (b : UInt8) : Option (Nat × UInt8 × UInt8) :=
  if 0xC2 ≤ b && b ≤ 0xDF then some (1, 0x80, 0xBF)
  else if b = 0xE0 then some (2, 0xA0, 0xBF)
  else if b = 0xED then some (2, 0x80, 0x9F)
  else if 0xE1 ≤ b && b ≤ 0xEF then some (2, 0x80, 0xBF)
  else if b = 0xF0 then some (3, 0x90, 0xBF)
  else if 0xF1 ≤ b && b ≤ 0xF3 then some (3, 0x80, 0xBF)
  else if b = 0xF4 then some (3, 0x80, 0x8F)
  else none

/-- The low bits that a first byte contributes. -/
def leadBits (b : UInt8) : Nat :=
  if b < 0xE0 then b.toNat % 32 else if b < 0xF0 then b.toNat % 16 else b.toNat % 8

/-- Takes up to `n` further bytes while each lies between the bounds, which are those of `isTail`
from the second byte on. Gives the code point so far, or none when a byte was missing, and the rest. -/
def tails : Nat → UInt8 → UInt8 → Nat → List UInt8 → Option Nat × List UInt8
  | 0, _, _, point, rest => (some point, rest)
  | _ + 1, _, _, _, [] => (none, [])
  | n + 1, lo, hi, point, b :: rest =>
    if lo ≤ b && b ≤ hi then tails n 0x80 0xBF (point * 64 + b.toNat % 64) rest
    else (none, b :: rest)

/-- Reads one character that starts with `b`: none where it is ill-formed, and the bytes left. -/
def decodeHead (b : UInt8) (rest : List UInt8) : Option Char × List UInt8 :=
  if b < 0x80 then (some (Char.ofNat b.toNat), rest)
  else match lead b with
    | none => (none, rest)
    | some (n, lo, hi) =>
      match tails n lo hi (leadBits b) rest with
      | (some point, rest) => (some (Char.ofNat point), rest)
      | (none, rest) => (none, rest)

theorem length_tails (n : Nat) (lo hi : UInt8) (point : Nat) (bs : List UInt8) :
    (tails n lo hi point bs).2.length ≤ bs.length := by
  induction n generalizing lo hi point bs with
  | zero => simp [tails]
  | succ n ih =>
    cases bs with
    | nil => simp [tails]
    | cons b r =>
      simp only [tails]
      split
      · exact Nat.le_succ_of_le (ih _ _ _ _)
      · simp

theorem length_decodeHead (b : UInt8) (rest : List UInt8) :
    (decodeHead b rest).2.length ≤ rest.length := by
  unfold decodeHead
  split
  · simp
  · split
    · simp
    · rename_i n lo hi _
      have := length_tails n lo hi (leadBits b) rest
      split <;> simp_all

/-- `decodeLossy` behind characters already read, the last one first. -/
def decodeOnto (acc : List Char) : List UInt8 → List Char
  | [] => acc.reverse
  | b :: rest =>
    let head := decodeHead b rest
    decodeOnto (head.1.getD replacement :: acc) head.2
  termination_by bs => bs.length
  decreasing_by exact Nat.lt_succ_of_le (length_decodeHead b rest)

/-- Reads any bytes as text, with a replacement character for each ill-formed part. -/
def decodeLossy (bs : List UInt8) : List Char := decodeOnto [] bs

/-- `decode?` behind characters already read, the last one first. -/
def decodeOnto? (acc : List Char) : List UInt8 → Option (List Char)
  | [] => some acc.reverse
  | b :: rest =>
    match h : decodeHead b rest with
    | (none, _) => none
    | (some c, more) =>
      have : more.length < (b :: rest).length := by
        have := length_decodeHead b rest
        rw [h] at this
        exact Nat.lt_succ_of_le this
      decodeOnto? (c :: acc) more
  termination_by bs => bs.length
  decreasing_by assumption

/-- Reads well-formed bytes as text. -/
def decode? (bs : List UInt8) : Option (List Char) := decodeOnto? [] bs

end Patchbay.Text.Utf8
