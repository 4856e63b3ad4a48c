/-!
# The text of a document

Before a document is split into tokens its text becomes a list of letters, each with the place where it
stands. All line breaks but the two separators of paragraphs and lines become line feeds on the way, so
that nothing behind this module sees how the file ended its lines.

A text is taken in portions. A character that is not allowed spoils its portion, and nothing of that one
can be read.
-/

namespace Patchbay.Yaml

/-- A place in a text, counted from zero: the bytes in front of it, its line, and the characters in front
of it there. -/
structure Mark where
  index : Nat
  line : Nat
  column : Nat
  deriving DecidableEq, Repr, Inhabited

/-- The place where a text begins. -/
def Mark.start : Mark := { index := 0, line := 0, column := 0 }

/-- Whether this is the very first place of a line and of the text. -/
def Mark.isOrigin (m : Mark) : Bool := m.line = 0 && m.column = 0

/-- A place in words, counted from one. -/
def Mark.text (m : Mark) : String :=
  if m.isOrigin then s!"position {m.index}" else s!"line {m.line + 1} column {m.column + 1}"

/-- A character and its place. -/
structure Letter where
  char : Char
  mark : Mark
  deriving DecidableEq, Repr, Inhabited

/-- Whether a character may stand in a document. -/
def isAllowed (c : Char) : Bool :=
  let n := c.toNat
  n = 0x09 || n = 0x0A || n = 0x0D || (0x20 ≤ n && n ≤ 0x7E) || n = 0x85 ||
    (0xA0 ≤ n && n ≤ 0xD7FF) || (0xE000 ≤ n && n ≤ 0xFFFD) || 0x10000 ≤ n

/-- Line breaks as they are read: other spellings have become a line feed. -/
def isBreak (c : Char) : Bool := c = '\n' || c = '\u2028' || c = '\u2029'

/-- Blanks within a line. -/
def isGap (c : Char) : Bool := c = ' ' || c = '\t'

/-- Letters of names: those of the Latin alphabet, digits, hyphen and underscore. -/
def isNameChar (c : Char) : Bool := c.isAlphanum || c = '-' || c = '_'

/-- The mark that may open a line and says nothing. -/
def byteOrderMark : Char := '\uFEFF'

/-- Behind a character that stands at `m`. -/
def Mark.after (m : Mark) (c : Char) : Mark :=
  let index := m.index + c.utf8Size
  if isBreak c || c = '\r' || c = '\u0085' then { index, line := m.line + 1, column := 0 }
  else { m with index, column := m.column + 1 }

/-- Puts each character at its place, from `m` on. Gives the place behind the last one, too. -/
def locate (m : Mark) : List Char → List Letter × Mark
  | [] => ([], m)
  | '\r' :: '\n' :: rest =>
    let (ls, e) := locate { index := m.index + 2, line := m.line + 1, column := 0 } rest
    ({ char := '\n', mark := m } :: ls, e)
  | c :: rest =>
    let (ls, e) := locate (m.after c) rest
    ({ char := if c = '\r' || c = '\u0085' then '\n' else c, mark := m } :: ls, e)

/-- The bytes of a portion. A character that would reach over its end belongs to the next one. -/
def portionSize : Nat := 16384

/-- A portion that cannot be read: where it begins, and the first character in it that is not allowed. -/
structure Spoiled where
  start : Nat
  index : Nat
  deriving DecidableEq, Repr

/-- The first portion that cannot be read, from the place `index` in the portion that begins at `start`. -/
def spoiled? (start index : Nat) : List Char → Option Spoiled
  | [] => none
  | c :: rest =>
    let next := index + c.utf8Size
    let start := if start + portionSize < next then index else start
    if isAllowed c then spoiled? start next rest else some { start, index }

end Patchbay.Yaml
