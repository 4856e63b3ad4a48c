import Patchbay.Yaml.Error
/-!
# Tokens

A document is first split into tokens. Indentation becomes tokens of its own: a block collection opens
where a line is indented further than the one above it and closes where one is indented less.
-/

namespace Patchbay.Yaml

/-- How a scalar was written. -/
inductive Style where
  | plain
  | singleQuoted
  | doubleQuoted
  | literal
  | folded
  deriving DecidableEq, Repr

/-- The tokens of a document. -/
inductive TokenKind where
  | streamStart
  | streamEnd
  /-- States the version of the format. -/
  | version (major minor : Nat)
  /-- Lets a handle stand for the beginning of a tag. -/
  | handle (name front : String)
  | documentStart
  | documentEnd
  | blockSequence
  | blockMapping
  | blockEnd
  | flowSequenceStart
  | flowSequenceEnd
  | flowMappingStart
  | flowMappingEnd
  | blockEntry
  | flowEntry
  | key
  | value
  | reference (name : String)
  | anchor (name : String)
  | tag (handle suffix : String)
  | scalar (text : String) (style : Style)
  deriving DecidableEq, Repr

/-- A token and where it begins and ends. -/
structure Token where
  kind : TokenKind
  start : Mark
  stop : Mark
  deriving DecidableEq, Repr

/-- What is left to read, and where the text ends. -/
structure Cursor where
  rest : List Letter
  last : Mark
  deriving DecidableEq, Repr

namespace Cursor

/-- The place of the cursor. -/
def mark (c : Cursor) : Mark :=
  match c.rest with
  | l :: _ => l.mark
  | [] => c.last

/-- The character `n` places ahead. -/
def char? (c : Cursor) (n : Nat) : Option Char := (c.rest[n]?).map (·.char)

/-- Whether a character stands at the cursor. -/
def isAt (c : Cursor) (x : Char) : Bool := c.char? 0 = some x

/-- Moves over `n` characters. -/
def skip (c : Cursor) (n : Nat) : Cursor := { c with rest := c.rest.drop n }

/-- Moves over characters as long as they fit. -/
def skipWhile (c : Cursor) (p : Char → Bool) : Cursor :=
  { c with rest := c.rest.dropWhile fun l => p l.char }

/-- The characters that fit, from the cursor on. -/
def takeWhile (c : Cursor) (p : Char → Bool) : List Char :=
  (c.rest.takeWhile fun l => p l.char).map (·.char)

/-- Whether nothing or a line break stands `n` places ahead. -/
def endsLine (c : Cursor) (n : Nat) : Bool := (c.char? n).all isBreak

/-- Whether nothing, a line break or a blank stands `n` places ahead. -/
def endsWord (c : Cursor) (n : Nat) : Bool := (c.char? n).all fun x => isGap x || isBreak x

/-- Whether a line begins here that separates documents, with three of this character. -/
def isSeparator (c : Cursor) (x : Char) : Bool :=
  c.mark.column = 0 && c.char? 0 = some x && c.char? 1 = some x && c.char? 2 = some x && c.endsWord 3

/-- Whether a line begins here that opens or closes a document. -/
def isIndicator (c : Cursor) : Bool := c.isSeparator '-' || c.isSeparator '.'

/-- Moves over blanks and a comment up to the end of the line. -/
def skipComment (c : Cursor) : Cursor :=
  let c := c.skipWhile isGap
  if c.isAt '#' then c.skipWhile (!isBreak ·) else c

/-- Moves over a line break, if one is here. -/
def skipBreak (c : Cursor) : Cursor := if (c.char? 0).any isBreak then c.skip 1 else c

theorem length_skip_le (c : Cursor) (n : Nat) : (c.skip n).rest.length ≤ c.rest.length := by
  simp [skip]

theorem length_skip_lt {c : Cursor} {x : Char} {n : Nat} (h : c.char? 0 = some x) (hn : 0 < n) :
    (c.skip n).rest.length < c.rest.length := by
  have hc : 0 < c.rest.length := by
    cases hr : c.rest with
    | nil => simp [char?, hr] at h
    | cons l r => simp
  simp only [skip, List.length_drop]
  omega

end Cursor
end Patchbay.Yaml
