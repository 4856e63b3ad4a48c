import Patchbay.Yaml.Token
/-!
# Reading scalars

A scalar may reach over several lines. In plain and quoted scalars one line break is read as a space and
more are read as one less than there are; blanks around them count for nothing. Block scalars keep their
lines, or fold those that are not indented further.
-/

namespace Patchbay.Yaml

/-- What has been read of a plain or quoted scalar, the last character first. Blanks and breaks wait
until it is known that something follows them. -/
structure Folding where
  text : List Char
  gaps : List Char
  /-- Whether a line break came since the last character. -/
  isBroken : Bool
  /-- That line break, unless it was escaped. -/
  firstBreak : Option Char
  /-- The line breaks after it. -/
  breaks : List Char
  deriving DecidableEq, Repr

namespace Folding

/-- Nothing read. -/
def empty : Folding := { text := [], gaps := [], isBroken := false, firstBreak := none, breaks := [] }

/-- A blank. After a line break it is indentation. -/
def gap (f : Folding) (c : Char) : Folding := if f.isBroken then f else { f with gaps := c :: f.gaps }

/-- A line break. -/
def lineBreak (f : Folding) (c : Char) : Folding :=
  if f.isBroken then { f with breaks := c :: f.breaks }
  else { f with gaps := [], isBroken := true, firstBreak := some c }

/-- A line break that an escape takes away. -/
def escapedBreak (f : Folding) : Folding := { f with isBroken := true, firstBreak := none }

/-- Puts what waits behind the text: blanks as they are, and line breaks folded. -/
def join (f : Folding) : Folding :=
  if f.isBroken then
    let folded := match f.firstBreak with
      | some '\n' => if f.breaks.isEmpty then [' '] else f.breaks
      | some c => f.breaks ++ [c]
      | none => f.breaks
    { empty with text := folded ++ f.text }
  else { empty with text := f.gaps ++ f.text }

/-- A character of the text. -/
def push (f : Folding) (c : Char) : Folding := { f.join with text := c :: f.join.text }

/-- The text so far. -/
def toString (f : Folding) : String := String.ofList f.text.reverse

end Folding

/-- The value of a hexadecimal digit. -/
def hexDigit? (c : Char) : Option Nat :=
  if c.isDigit then some (c.toNat - '0'.toNat)
  else if 'a' ≤ c && c ≤ 'f' then some (c.toNat - 'a'.toNat + 10)
  else if 'A' ≤ c && c ≤ 'F' then some (c.toNat - 'A'.toNat + 10)
  else none

/-- The number that hexadecimal digits stand for. -/
def hexNumber? (cs : List Char) : Option Nat :=
  cs.foldlM (fun n c => (hexDigit? c).map (n * 16 + ·)) 0

/-- What an escape stands for: a character, or a code point of so many digits. -/
inductive Escape where
  | char (c : Char)
  | code (digits : Nat)

/-- The escape of a character behind a backslash. -/
def escape? (c : Char) : Option Escape :=
  match c with
  | '0' => some (.char '\x00')
  | 'a' => some (.char '\x07')
  | 'b' => some (.char '\x08')
  | 't' | '\t' => some (.char '\t')
  | 'n' => some (.char '\n')
  | 'v' => some (.char '\x0b')
  | 'f' => some (.char '\x0c')
  | 'r' => some (.char '\r')
  | 'e' => some (.char '\x1b')
  | ' ' => some (.char ' ')
  | '"' => some (.char '"')
  | '/' => some (.char '/')
  | '\\' => some (.char '\\')
  | 'N' => some (.char '\u0085')
  | '_' => some (.char '\u00a0')
  | 'L' => some (.char '\u2028')
  | 'P' => some (.char '\u2029')
  | 'x' => some (.code 2)
  | 'u' => some (.code 4)
  | 'U' => some (.code 8)
  | _ => none

/-- Whether a number is a code point that stands for a character. -/
def isCodePoint (n : Nat) : Bool := n < 0xD800 || (0xDFFF < n && n ≤ 0x10FFFF)

/-- Reads the character that an escape behind a backslash stands for. -/
def readEscape (start : Mark) (c : Cursor) : Except SyntaxError (Char × Cursor) :=
  let fail := SyntaxError.during .quotedEscape start
  match (c.char? 1).bind escape? with
  | none => .error (fail .unknownEscape c.mark)
  | some (.char x) => .ok (x, c.skip 2)
  | some (.code digits) =>
    let c := c.skip 2
    let ds := (c.rest.take digits).map (·.char)
    match if ds.length = digits then hexNumber? ds else none with
    | none => .error (fail .hexDigits c.mark)
    | some n =>
      if isCodePoint n then .ok (Char.ofNat n, c.skip digits)
      else .error (fail .escapedCodePoint c.mark)

/-- One step into a quoted scalar: what has been read and the cursor, or the scalar and what follows. -/
def quotedStep (quote : Char) (start : Mark) (f : Folding) (c : Cursor) :
    Except SyntaxError (Folding × Cursor ⊕ String × Cursor) :=
  let fail := SyntaxError.during .quotedScalar start
  match c.char? 0 with
  | none => .error (fail .unexpectedEnd c.mark)
  | some x =>
    if isGap x then .ok (.inl (f.gap x, c.skip 1))
    else if isBreak x then .ok (.inl (f.lineBreak x, c.skip 1))
    else if c.isIndicator then .error (fail .documentIndicator c.mark)
    else if x = quote then
      if quote = '\'' && c.char? 1 = some '\'' then .ok (.inl (f.push '\'', c.skip 2))
      else .ok (.inr (f.join.toString, c.skip 1))
    else if x = '\\' && quote = '"' then
      if (c.char? 1).any isBreak then .ok (.inl (f.join.escapedBreak, c.skip 2))
      else match readEscape start c with
        | .error e => .error e
        | .ok (y, c) => .ok (.inl (f.push y, c))
    else .ok (.inl (f.push x, c.skip 1))

theorem length_lt_of_readEscape {start : Mark} {c next : Cursor} {x y : Char} (hx : c.char? 0 = some x)
    (h : readEscape start c = .ok (y, next)) : next.rest.length < c.rest.length := by
  have h2 : (c.skip 2).rest.length < c.rest.length := Cursor.length_skip_lt hx (by decide)
  simp only [readEscape] at h
  split at h
  · cases h
  · cases h
    exact h2
  · split at h
    · cases h
    · split at h
      · cases h
        exact Nat.lt_of_le_of_lt (Cursor.length_skip_le _ _) h2
      · cases h

theorem length_lt_of_quotedStep {quote : Char} {start : Mark} {f g : Folding} {c next : Cursor}
    (h : quotedStep quote start f c = .ok (.inl (g, next))) : next.rest.length < c.rest.length := by
  simp only [quotedStep] at h
  split at h
  · cases h
  · rename_i x hx
    have skipped (n : Nat) (hn : 0 < n) : (c.skip n).rest.length < c.rest.length :=
      Cursor.length_skip_lt hx hn
    split at h
    · cases h; exact skipped 1 (by decide)
    split at h
    · cases h; exact skipped 1 (by decide)
    split at h
    · cases h
    split at h
    · split at h
      · cases h; exact skipped 2 (by decide)
      · cases h
    split at h
    · split at h
      · cases h; exact skipped 2 (by decide)
      · split at h
        · cases h
        · rename_i y d he
          cases h
          exact length_lt_of_readEscape hx he
    · cases h; exact skipped 1 (by decide)

/-- Reads a quoted scalar behind its opening quote. -/
def readQuoted (quote : Char) (start : Mark) (f : Folding) (c : Cursor) :
    Except SyntaxError (String × Cursor) :=
  match _h : quotedStep quote start f c with
  | .error e => .error e
  | .ok (.inr done) => .ok done
  | .ok (.inl (f, next)) => readQuoted quote start f next
  termination_by c.rest.length
  decreasing_by exact length_lt_of_quotedStep ‹_›

/-- Characters that mean something between the brackets of a flow collection. -/
def isFlowIndicator (x : Char) : Bool := x = ',' || x = '[' || x = ']' || x = '{' || x = '}'

/-- A plain scalar that has been read. -/
structure PlainScalar where
  text : String
  /-- Behind its last character. -/
  stop : Mark
  /-- Whether a line break came behind it. -/
  isBroken : Bool
  after : Cursor

/-- Reads a plain scalar. `stop` is the place behind its last character so far, and `fresh` says whether
the cursor stands behind a blank. The scalar ends at a line that is indented too little, outside flow
collections. -/
def readPlain (inFlow : Bool) (indent : Nat) (start stop : Mark) (fresh : Bool) (f : Folding)
    (last : Mark) : List Letter → Except SyntaxError PlainScalar
  | [] => .ok { text := String.ofList f.text.reverse, stop, isBroken := f.isBroken, after := ⟨[], last⟩ }
  | l :: rest =>
    let fail := SyntaxError.during .plainScalar start
    let here : Cursor := { rest := l :: rest, last }
    let done := PlainScalar.mk (String.ofList f.text.reverse) stop f.isBroken here
    let x := l.char
    if isGap x then
      if f.isBroken && l.mark.column < indent && x = '\t' then .error (fail .tabInPlain l.mark)
      else readPlain inFlow indent start stop true (f.gap x) last rest
    else if isBreak x then readPlain inFlow indent start stop true (f.lineBreak x) last rest
    else if fresh && !inFlow && l.mark.column < indent then .ok done
    else if here.isIndicator || (fresh && x = '#') then .ok done
    else if inFlow && x = ':' && (here.char? 1).any (fun y => isFlowIndicator y || y = '?') then
      .error (fail .strayColon l.mark)
    else if (x = ':' && here.endsWord 1) || (inFlow && isFlowIndicator x) then .ok done
    else
      readPlain inFlow indent start (l.mark.after x) false (f.push x) last rest

/-- What to do with the line breaks at the end of a block scalar. -/
inductive Chomping where
  | strip
  | clip
  | keep
  deriving DecidableEq, Repr

/-- The header of a block scalar: chomping, and how far it is indented if that is told. -/
structure BlockHeader where
  chomping : Chomping
  increment : Option Nat

/-- Reads the sign of a chomping. -/
def chomping? (c : Cursor) : Option Chomping :=
  match c.char? 0 with
  | some '+' => some .keep
  | some '-' => some .strip
  | _ => none

/-- Reads a digit as an indentation, which is not zero. -/
def increment? (start : Mark) (c : Cursor) : Except SyntaxError (Option Nat) :=
  match c.char? 0 with
  | some '0' => .error (.during .blockScalar start .zeroIndent c.mark)
  | some x => .ok (if x.isDigit then some (x.toNat - '0'.toNat) else none)
  | none => .ok none

/-- Reads the header behind the indicator of a block scalar, up to the next line. -/
def readBlockHeader (start : Mark) (c : Cursor) : Except SyntaxError (BlockHeader × Cursor) := do
  let (chomping, increment, c) ← match chomping? c with
    | some chomping =>
      let c := c.skip 1
      let increment ← increment? start c
      pure (chomping, increment, if increment.isSome then c.skip 1 else c)
    | none =>
      match ← increment? start c with
      | none => pure (Chomping.clip, none, c)
      | some n =>
        let c := c.skip 1
        match chomping? c with
        | some chomping => pure (chomping, some n, c.skip 1)
        | none => pure (Chomping.clip, some n, c)
  let c := c.skipComment
  if c.endsLine 0 then .ok ({ chomping, increment }, c.skipBreak)
  else .error (.during .blockScalar start .blockHeaderTail c.mark)

/-- Reads indentation and empty lines. The indentation, where it is not fixed, is the deepest one met.
Gives that, the line breaks, the last one first, and what follows. -/
def readEmptyLines (start : Mark) (fixed : Option Nat) (deepest : Nat) (breaks : List Char) (last : Mark) :
    List Letter → Except SyntaxError (Nat × List Char × List Letter)
  | [] => .ok (max deepest last.column, breaks, [])
  | l :: rest =>
    let isShallow := fixed.all (l.mark.column < ·)
    if l.char = ' ' && isShallow then readEmptyLines start fixed deepest breaks last rest
    else
      let deepest := max deepest l.mark.column
      if l.char = '\t' && isShallow then .error (.during .blockScalar start .tabInIndent l.mark)
      else if isBreak l.char then readEmptyLines start fixed deepest (l.char :: breaks) last rest
      else .ok (deepest, breaks, l :: rest)

theorem length_le_of_readEmptyLines {start : Mark} {fixed : Option Nat} {deepest : Nat} {breaks : List Char}
    {last : Mark} {ls rest : List Letter} {d : Nat} {bs : List Char}
    (h : readEmptyLines start fixed deepest breaks last ls = .ok (d, bs, rest)) : rest.length ≤ ls.length := by
  induction ls generalizing deepest breaks with
  | nil =>
    cases h
    exact Nat.le_refl _
  | cons l r ih =>
    simp only [readEmptyLines] at h
    split at h
    · exact Nat.le_succ_of_le (ih h)
    split at h
    · cases h
    split at h
    · exact Nat.le_succ_of_le (ih h)
    · cases h
      exact Nat.le_refl _

/-- What has been read of a block scalar, the last character first. -/
structure Lines where
  text : List Char
  /-- The break at the end of the last line. -/
  lineBreak : List Char
  /-- The breaks of the empty lines behind it. -/
  empties : List Char
  /-- Whether that line begins with a blank. -/
  startsBlank : Bool

/-- Puts a line behind the others. When lines are folded, a break between two lines that begin with no
blank becomes a space, or nothing where empty lines follow it. -/
def Lines.push (isLiteral : Bool) (b : Lines) (line : List Char) (lineBreak empties : List Char) : Lines :=
  let startsBlank := line.head?.any isGap
  let folds := !isLiteral && b.lineBreak = ['\n'] && !b.startsBlank && !startsBlank
  let between := if folds then (if b.empties.isEmpty then [' '] else b.empties)
    else b.empties ++ b.lineBreak
  { text := line.reverse ++ between ++ b.text, lineBreak, empties, startsBlank }

/-- The first line, its break, and what follows. -/
def splitLine (ls : List Letter) : List Char × List Char × List Letter :=
  let rest := ls.dropWhile (!isBreak ·.char)
  ((ls.takeWhile (!isBreak ·.char)).map (·.char), (rest.take 1).map (·.char), rest.drop 1)

theorem length_le_of_splitLine {l : Letter} {ls rest : List Letter} {line lineBreak : List Char}
    (h : splitLine (l :: ls) = (line, lineBreak, rest)) : rest.length ≤ ls.length := by
  have hd := (List.dropWhile_sublist (fun l : Letter => !isBreak l.char) (l := l :: ls)).length_le
  cases h
  simp only [List.length_drop, List.length_cons] at hd ⊢
  omega

/-- Reads the lines of a block scalar that are indented as far as its first one. -/
def readLines (isLiteral : Bool) (start : Mark) (indent : Nat) (b : Lines) (last : Mark) :
    List Letter → Except SyntaxError (Lines × List Letter)
  | [] => .ok (b, [])
  | l :: tail =>
    if l.mark.column ≠ indent then .ok (b, l :: tail)
    else match _hs : splitLine (l :: tail) with
      | (line, lineBreak, rest) =>
        match _hr : readEmptyLines start (some indent) 0 [] last rest with
        | .error e => .error e
        | .ok (_, empties, next) =>
          readLines isLiteral start indent (b.push isLiteral line lineBreak empties) last next
  termination_by letters => letters.length
  decreasing_by
    have := length_le_of_splitLine ‹_›
    have := length_le_of_readEmptyLines ‹_›
    simp only [List.length_cons]
    omega

/-- Reads a block scalar behind its indicator. `indent` is the indentation of the collection around it,
if there is one. -/
def readBlock (isLiteral : Bool) (start : Mark) (indent : Option Nat) (c : Cursor) :
    Except SyntaxError (String × Cursor) := do
  let (header, c) ← readBlockHeader start c
  let fixed := header.increment.map (indent.getD 0 + ·)
  let (deepest, empties, rest) ← readEmptyLines start fixed 0 [] c.last c.rest
  let least := match indent with
    | some n => n + 1
    | none => 1
  let column := fixed.getD (max deepest least)
  let nothing : Lines := { text := [], lineBreak := [], empties, startsBlank := false }
  let (b, rest) ← readLines isLiteral start column nothing c.last rest
  let tail := match header.chomping with
    | .strip => []
    | .clip => b.lineBreak
    | .keep => b.empties ++ b.lineBreak
  return (String.ofList (tail ++ b.text).reverse, { c with rest })

end Patchbay.Yaml
