import Patchbay.Yaml.Meaning
import Patchbay.Yaml.Token
import Patchbay.Yaml.Value
/-!
# Writing values

Mappings are written one entry a line, and what stands inside one is indented by two more spaces. A text is
written without quotes where it can be read back that way. Otherwise it gets single quotes, or double
quotes when it holds what only an escape can show. A text of several lines keeps them, unless one of them
ends in a space.
-/

namespace Patchbay.Yaml

/-- Spaces by which the inside of a mapping is indented. -/
def indentWidth : Nat := 2

/-- Characters that end a line for some reader. -/
def isLineEnd (c : Char) : Bool :=
  c = '\n' || c = '\r' || c = '\u0085' || c = '\u2028' || c = '\u2029'

/-- Characters that are written as they are. -/
def isPrintable (c : Char) : Bool :=
  let n := c.toNat
  n = 0x0A || (0x20 ≤ n && n ≤ 0x7E) || (0xA0 ≤ n && n ≤ 0xD7FF) ||
    (0xE000 ≤ n && n ≤ 0xFFFD && c ≠ byteOrderMark) || 0x10000 ≤ n

/-- Whether a blank or line end, or nothing, comes next. -/
def precedesGap (cs : List Char) : Bool := cs.head?.all fun c => isGap c || isLineEnd c

/-- Whether the first character of a text says that it is something else than a text. -/
def opensOther (c : Char) (rest : List Char) : Bool :=
  "#,[]\x7b\x7d&*!|>'\"%@\x60".toList.contains c || ((c = '?' || c = ':' || c = '-') && precedesGap rest)

/-- Whether a later character ends a plain scalar, or begins a comment. -/
def breaksPlain : List Char → Bool
  | [] | [_] => false
  | p :: c :: rest =>
    (c = ':' && precedesGap rest) || (c = '#' && (isGap p || isLineEnd p)) || breaksPlain (c :: rest)

/-- Whether a character of one sort stands in front of one of another. -/
def hasPair (p q : Char → Bool) : List Char → Bool
  | [] | [_] => false
  | a :: b :: rest => (p a && q b) || hasPair p q (b :: rest)

/-- Whether a text can be written without quotes. -/
def allowsPlain (cs : List Char) : Bool :=
  match cs with
  | [] => false
  | c :: rest =>
    !(c = '-' && rest.take 2 = ['-', '-']) && !(c = '.' && rest.take 2 = ['.', '.']) &&
    !opensOther c rest && !breaksPlain cs && cs.all isPrintable && !cs.any isLineEnd &&
    c ≠ ' ' && cs.getLast? ≠ some ' '

/-- Whether a text can be written in single quotes. -/
def allowsSingle (cs : List Char) : Bool :=
  cs.all isPrintable && !hasPair isLineEnd (· = ' ') cs && !hasPair (· = ' ') isLineEnd cs

/-- Whether a text can be written line by line. -/
def allowsLiteral (cs : List Char) : Bool :=
  cs.all isPrintable && !hasPair (· = ' ') isLineEnd cs && cs.getLast? ≠ some ' '

/-- How a text is written. -/
def styleOf (s : String) : Style :=
  let cs := s.toList
  if cs.contains '\n' then (if allowsLiteral cs then .literal else .doubleQuoted)
  else if Meaning.ofPlain cs = .text && !Meaning.isPadded cs && allowsPlain cs then .plain
  else if allowsSingle cs then .singleQuoted
  else .doubleQuoted

/-- Spaces. -/
def spaces (n : Nat) : List Char := List.replicate n ' '

/-- A text between single quotes: quotes are doubled, and behind a line end comes the indentation. -/
def quoteSingle (indent : Nat) (afterBreak : Bool) : List Char → List Char
  | [] => (if afterBreak then spaces indent else []) ++ ['\'']
  | c :: rest =>
    if isLineEnd c then c :: quoteSingle indent true rest
    else
      let shown := if c = '\'' then ['\'', '\''] else [c]
      (if afterBreak then spaces indent else []) ++ shown ++ quoteSingle indent false rest

/-- A number as hexadecimal digits of a fixed count. -/
def hexDigits (width n : Nat) : List Char :=
  let digits := (Nat.toDigits 16 n).map Char.toUpper
  List.replicate (width - digits.length) '0' ++ digits

/-- One character between double quotes. -/
def escapeDouble (c : Char) : List Char :=
  match c with
  | '\x00' => ['\\', '0']
  | '\x07' => ['\\', 'a']
  | '\x08' => ['\\', 'b']
  | '\t' => ['\\', 't']
  | '\n' => ['\\', 'n']
  | '\x0b' => ['\\', 'v']
  | '\x0c' => ['\\', 'f']
  | '\r' => ['\\', 'r']
  | '\x1b' => ['\\', 'e']
  | '"' => ['\\', '"']
  | '\\' => ['\\', '\\']
  | '\u0085' => ['\\', 'N']
  | '\u2028' => ['\\', 'L']
  | '\u2029' => ['\\', 'P']
  | c =>
    if isPrintable c then [c]
    else if c.toNat ≤ 0xFF then '\\' :: 'x' :: hexDigits 2 c.toNat
    else if c.toNat ≤ 0xFFFF then '\\' :: 'u' :: hexDigits 4 c.toNat
    else '\\' :: 'U' :: hexDigits 8 c.toNat

/-- The header of a text that is written line by line: how far it is indented, where its first line does
not show that, and whether it ends in no line break or in more than one. -/
def literalHeader (cs : List Char) : List Char :=
  let hint := if cs.head?.any fun c => c = ' ' || isLineEnd c then (toString indentWidth).toList else []
  let chomp := match cs.reverse with
    | c :: rest => if !isLineEnd c then ['-'] else if rest.head?.all isLineEnd then ['+'] else []
    | [] => ['-']
  '|' :: hint ++ chomp

/-- The lines of a text, each indented unless it is empty. -/
def literalLines (indent : Nat) (afterBreak : Bool) : List Char → List Char
  | [] => []
  | c :: rest =>
    if isLineEnd c then c :: literalLines indent true rest
    else (if afterBreak then spaces indent else []) ++ c :: literalLines indent false rest

/-- A text behind a key, up to the end of its line. -/
def writeText (indent : Nat) (s : String) : List Char :=
  let cs := s.toList
  match styleOf s with
  | .plain => cs ++ ['\n']
  | .singleQuoted => '\'' :: quoteSingle indent false cs ++ ['\n']
  | .literal =>
    let lines := literalLines indent true cs
    literalHeader cs ++ '\n' :: lines ++ (if cs.getLast?.any isLineEnd then [] else ['\n'])
  | _ => '"' :: cs.flatMap escapeDouble ++ ['"', '\n']

mutual

/-- A value behind a key, up to the end of its last line. -/
def writeValue (indent : Nat) : Value → List Char
  | .null => " null\n".toList
  | .number n => ' ' :: (toString n).toList ++ ['\n']
  | .text s => ' ' :: writeText (indent + indentWidth) s
  | .mapping [] => " \x7b\x7d\n".toList
  | .mapping (e :: es) => '\n' :: writeEntries (indent + indentWidth) (e :: es)

/-- The entries of a mapping. -/
def writeEntries (indent : Nat) : List (String × Value) → List Char
  | [] => []
  | (key, value) :: rest =>
    spaces indent ++ key.toList ++ ':' :: writeValue indent value ++ writeEntries indent rest

end

/-- A mapping as a document. -/
def render (entries : List (String × Value)) : String := String.ofList (writeEntries 0 entries)

end Patchbay.Yaml
