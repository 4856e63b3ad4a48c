import Patchbay.Wire.Word
import Patchbay.Text.Utf8
/-!
# Display names

A client's name has at most 255 bytes and no NUL, so that it fits a field of 256 bytes with its
terminator. `clip` cuts any text to such a name, at a whole character, and `ofField` reads the name
from a field, which ends at the first NUL or at the end of the field.
-/

namespace Patchbay.Wire.Name

open Patchbay.Text

/-- The most bytes a name has. -/
def limit : Nat := 255

/-- Bytes of the fixed field in a listing, terminator included. -/
def fieldSize : Nat := limit + 1

/-- The characters in front of the first NUL, as many as fit into `room` bytes. -/
def fit (room : Nat) : List Char → List Char
  | [] => []
  | c :: rest =>
    if c = '\x00' ∨ room < c.utf8Size then [] else c :: fit (room - c.utf8Size) rest

/-- The text cut to a name. -/
def clip (s : String) : String := String.ofList (fit limit s.toList)

/-- The bytes of a text cut to a name. -/
def encode (s : String) : Bytes := Utf8.encode (fit limit s.toList)

/-- The name in a field: what stands before the first NUL, read as text and cut to a name, since
replacement characters may have made it longer. -/
def ofField (bs : Bytes) : String :=
  String.ofList (fit limit (Utf8.decodeLossy (bs.takeWhile (· ≠ 0))))

/-- Bytes of some characters in UTF-8. -/
def byteLength : List Char → Nat
  | [] => 0
  | c :: rest => c.utf8Size + byteLength rest

theorem byteLength_fit (room : Nat) (cs : List Char) : byteLength (fit room cs) ≤ room := by
  induction cs generalizing room with
  | nil => simp [fit, byteLength]
  | cons c r ih =>
    simp only [fit]
    split
    · simp [byteLength]
    · rename_i h
      have := ih (room - c.utf8Size)
      simp only [byteLength] at this ⊢
      omega

theorem fit_prefix_list (room : Nat) (cs : List Char) : fit room cs <+: cs := by
  induction cs generalizing room with
  | nil => simp [fit]
  | cons c r ih =>
    simp only [fit]
    split
    · simp
    · exact List.cons_prefix_cons.2 ⟨rfl, ih _⟩

theorem nul_not_mem_fit (room : Nat) (cs : List Char) : '\x00' ∉ fit room cs := by
  induction cs generalizing room with
  | nil => simp [fit]
  | cons c r ih =>
    simp only [fit]
    split
    · simp
    · rename_i h
      simp only [List.mem_cons, not_or]
      exact ⟨fun e => h (Or.inl e.symm), ih _⟩

/-- A name that already fits is left alone. -/
theorem fit_eq_self {room : Nat} {cs : List Char} (hn : '\x00' ∉ cs) (hl : byteLength cs ≤ room) :
    fit room cs = cs := by
  induction cs generalizing room with
  | nil => rfl
  | cons c r ih =>
    simp only [List.mem_cons, not_or] at hn
    simp only [byteLength] at hl
    have hc : ¬ (c = '\x00' ∨ room < c.utf8Size) := by
      rintro (e | e)
      · exact hn.1 e.symm
      · omega
    simp only [fit, if_neg hc]
    rw [ih hn.2 (by omega)]

theorem length_utf8_encode (cs : List Char) : (Utf8.encode cs).length = byteLength cs := by
  induction cs with
  | nil => rfl
  | cons c r ih =>
    simp only [Utf8.encode, List.flatMap_cons, List.length_append] at ih ⊢
    simp [ih, byteLength]

theorem length_encode_le (s : String) : (encode s).length ≤ limit := by
  rw [encode, length_utf8_encode]
  exact byteLength_fit _ _

end Patchbay.Wire.Name
