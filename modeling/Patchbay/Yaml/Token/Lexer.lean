import Patchbay.Yaml.Token.Tag
/-!
# Splitting a document into tokens

Most tokens announce themselves by their first character. Two things do not. Indentation opens and closes
block collections: `indents` holds the columns of those that are open. And a key need not be marked as
one: whatever may turn out to be a key is remembered as a `Candidate` until a colon follows on the same
line, and then the token of a key is put in front of it.

The result is the tokens that can be relied on and, if reading failed, why. Tokens from the first
candidate on cannot be relied on when reading fails, since a key might still have come in front of them.
-/

namespace Patchbay.Yaml

/-- A token that may turn out to be a key. -/
structure Candidate where
  /-- How many tokens stand in front of it. -/
  number : Nat
  /-- Nothing else than a key may stand here. -/
  isRequired : Bool
  mark : Mark
  deriving DecidableEq, Repr

/-- A key without a mark is on one line and at most so long. -/
def maxKeyLength : Nat := 1024

/-- The state of reading. -/
structure Lexer where
  cursor : Cursor
  /-- The tokens so far, the latest first. -/
  tokens : List Token
  /-- How many they are. -/
  count : Nat
  /-- The columns of the open block collections, the innermost first. -/
  indents : List Nat
  /-- The candidate of the innermost flow collection, or outside all of them. -/
  candidate : Option Candidate
  /-- Those of the flow collections around it and of the outside. -/
  outer : List (Option Candidate)
  /-- Whether a key without a mark may begin here. -/
  allowsKey : Bool

namespace Lexer

/-- The beginning of a text. -/
def start (letters : List Letter) (last : Mark) : Lexer :=
  let cursor : Cursor := { rest := letters, last }
  { cursor, tokens := [{ kind := .streamStart, start := cursor.mark, stop := cursor.mark }], count := 1
    indents := [], candidate := none, outer := [], allowsKey := true }

/-- Whether a flow collection is open. -/
def inFlow (l : Lexer) : Bool := !l.outer.isEmpty

/-- The place of the cursor. -/
def mark (l : Lexer) : Mark := l.cursor.mark

/-- Appends a token. -/
def emit (l : Lexer) (kind : TokenKind) (start stop : Mark) : Lexer :=
  { l with tokens := { kind, start, stop } :: l.tokens, count := l.count + 1 }

/-- Appends the token of the next `n` characters. -/
def emitNext (l : Lexer) (n : Nat) (kind : TokenKind) : Lexer :=
  let start := l.mark
  let l := { l with cursor := l.cursor.skip n }
  l.emit kind start l.mark

/-- Inserts a token without extent behind `number` others. -/
def insert (l : Lexer) (number : Nat) (kind : TokenKind) (mark : Mark) : Lexer :=
  let tokens := l.tokens.insertIdx (l.count - number) { kind, start := mark, stop := mark }
  { l with tokens, count := l.count + 1 }

/-- A candidate that had to become a key did not. -/
def missing (l : Lexer) (c : Candidate) : SyntaxError := .during .simpleKey c.mark .missingColon l.mark

/-- The candidate is no key. -/
def dropCandidate (l : Lexer) : Except SyntaxError Lexer :=
  match l.candidate with
  | none => .ok l
  | some c => if c.isRequired then .error (l.missing c) else .ok { l with candidate := none }

/-- The next token may be a key, if one is allowed here. -/
def saveCandidate (l : Lexer) : Except SyntaxError Lexer := do
  if !l.allowsKey then return l
  let column := l.mark.column
  let isRequired := !l.inFlow && l.indents.head? = some column
  let l ← l.dropCandidate
  return { l with candidate := some { number := l.count, isRequired, mark := l.mark } }

/-- Whether the cursor is too far from a candidate for it to be a key. -/
def isStale (l : Lexer) (c : Candidate) : Bool :=
  c.mark.line < l.mark.line || c.mark.index + maxKeyLength < l.mark.index

/-- Forgets a candidate that can no longer be a key. -/
def refreshed (l : Lexer) (c : Option Candidate) : Except SyntaxError (Option Candidate) :=
  match c with
  | some c => if l.isStale c then (if c.isRequired then .error (l.missing c) else .ok none) else .ok (some c)
  | none => .ok none

/-- Forgets all candidates that can no longer be keys. -/
def refresh (l : Lexer) : Except SyntaxError Lexer := do
  let outer ← l.outer.mapM l.refreshed
  let candidate ← l.refreshed l.candidate
  return { l with outer, candidate }

/-- Opens a block collection, unless one is open at this column already. Its token is appended, or
inserted in front of a key. -/
def indent (l : Lexer) (column : Nat) (number : Option Nat) (kind : TokenKind) (mark : Mark) : Lexer :=
  if l.inFlow || l.indents.head?.any (column ≤ ·) then l
  else
    let l := { l with indents := column :: l.indents }
    match number with
    | none => l.emit kind mark mark
    | some n => l.insert n kind mark

/-- Closes the block collections that are indented further than a column, or all of them. -/
def dedent (l : Lexer) (column : Option Nat) : Lexer :=
  if l.inFlow then l
  else
    let closes (n : Nat) : Bool := column.all (· < n)
    let closed := l.indents.takeWhile closes
    let l := { l with indents := l.indents.drop closed.length }
    closed.foldl (fun l _ => l.emit .blockEnd l.mark l.mark) l

/-- Moves to the next token, over blanks, comments, line breaks, and a byte order mark that opens a line. Gives
too whether a key without a mark may begin there: outside flow collections it may behind a line break.
Where it may, a tab is no blank outside them. -/
def skipToToken (inFlow allowsKey inComment : Bool) : List Letter → Bool × List Letter
  | [] => (allowsKey, [])
  | l :: rest =>
    let isBlank := l.char = ' ' || ((inFlow || !allowsKey) && l.char = '\t') ||
      (l.mark.column = 0 && l.char = byteOrderMark)
    if isBreak l.char then skipToToken inFlow (allowsKey || !inFlow) false rest
    else if inComment || isBlank then skipToToken inFlow allowsKey inComment rest
    else if l.char = '#' then skipToToken inFlow allowsKey true rest
    else (allowsKey, l :: rest)

/-- Moves to the next token. -/
def toNextToken (l : Lexer) : Lexer :=
  let (allowsKey, rest) := skipToToken l.inFlow l.allowsKey false l.cursor.rest
  { l with cursor := { l.cursor with rest }, allowsKey }

/-- A place behind which no text comes. A last line without a break counts as ended. -/
def endMark (m : Mark) : Mark := if m.column = 0 then m else { m with line := m.line + 1, column := 0 }

/-- The end of the text. -/
def readEnd (l : Lexer) : Except SyntaxError Lexer := do
  let l := { l with cursor := { rest := [], last := endMark l.mark } }
  let l ← (l.dedent none).dropCandidate
  return { l with allowsKey := false }.emit .streamEnd l.mark l.mark

/-- A directive. -/
def lexDirective (l : Lexer) : Except SyntaxError Lexer := do
  let l ← (l.dedent none).dropCandidate
  let (kind, stop, cursor) ← readDirective l.cursor
  return { l with cursor, allowsKey := false }.emit kind l.mark stop

/-- A line that opens or closes a document. -/
def lexIndicator (l : Lexer) (kind : TokenKind) : Except SyntaxError Lexer := do
  let l ← (l.dedent none).dropCandidate
  return { l with allowsKey := false }.emitNext 3 kind

/-- The beginning of a flow collection, which may be a key itself. -/
def lexOpening (l : Lexer) (kind : TokenKind) : Except SyntaxError Lexer := do
  let l ← l.saveCandidate
  return { l with outer := l.candidate :: l.outer, candidate := none, allowsKey := true }.emitNext 1 kind

/-- The end of a flow collection. -/
def lexClosing (l : Lexer) (kind : TokenKind) : Except SyntaxError Lexer := do
  let l ← l.dropCandidate
  let l := match l.outer with
    | candidate :: outer => { l with candidate, outer }
    | [] => l
  return { l with allowsKey := false }.emitNext 1 kind

/-- The comma between the entries of a flow collection. -/
def lexComma (l : Lexer) : Except SyntaxError Lexer := do
  let l ← l.dropCandidate
  return { l with allowsKey := true }.emitNext 1 .flowEntry

/-- Opens a block collection at the cursor, where a key would be allowed. -/
def indentHere (l : Lexer) (kind : TokenKind) (problem : Problem) : Except SyntaxError Lexer :=
  if l.inFlow then .ok l
  else if !l.allowsKey then .error (.plain problem l.mark)
  else .ok (l.indent l.mark.column none kind l.mark)

/-- The hyphen in front of an entry of a block sequence. -/
def lexHyphen (l : Lexer) : Except SyntaxError Lexer := do
  let l ← (← l.indentHere .blockSequence .entryNotAllowed).dropCandidate
  return { l with allowsKey := true }.emitNext 1 .blockEntry

/-- The question mark in front of a key. -/
def lexQuestion (l : Lexer) : Except SyntaxError Lexer := do
  let l ← (← l.indentHere .blockMapping .keyNotAllowed).dropCandidate
  return { l with allowsKey := !l.inFlow }.emitNext 1 .key

/-- The colon in front of a value. If there is a candidate, it was a key. -/
def lexColon (l : Lexer) : Except SyntaxError Lexer := do
  match l.candidate with
  | some c =>
    let l := l.insert c.number .key c.mark
    let l := l.indent c.mark.column (some c.number) .blockMapping c.mark
    return { l with candidate := none, allowsKey := false }.emitNext 1 .value
  | none =>
    let l ← l.indentHere .blockMapping .valueNotAllowed
    return { l with allowsKey := !l.inFlow }.emitNext 1 .value

/-- The name of an anchor or a reference. -/
def lexName (l : Lexer) (activity : Activity) (kind : String → TokenKind) : Except SyntaxError Lexer := do
  let l ← l.saveCandidate
  let (name, cursor) ← readName activity l.cursor
  return { l with cursor, allowsKey := false }.emit (kind name) l.mark cursor.mark

/-- A tag. -/
def lexTag (l : Lexer) : Except SyntaxError Lexer := do
  let l ← l.saveCandidate
  let (kind, cursor) ← readTag l.inFlow l.cursor
  return { l with cursor, allowsKey := false }.emit kind l.mark cursor.mark

/-- A block scalar. -/
def lexBlock (l : Lexer) (style : Style) : Except SyntaxError Lexer := do
  let l ← l.dropCandidate
  let (text, cursor) ← readBlock (style = .literal) l.mark l.indents.head? (l.cursor.skip 1)
  return { l with cursor, allowsKey := true }.emit (.scalar text style) l.mark cursor.mark

/-- A quoted scalar. -/
def lexQuoted (l : Lexer) (quote : Char) (style : Style) : Except SyntaxError Lexer := do
  let l ← l.saveCandidate
  let (text, cursor) ← readQuoted quote l.mark .empty (l.cursor.skip 1)
  return { l with cursor, allowsKey := false }.emit (.scalar text style) l.mark cursor.mark

/-- A plain scalar. A key may begin behind one that ended with its line. -/
def lexPlain (l : Lexer) : Except SyntaxError Lexer := do
  let l ← l.saveCandidate
  let least := match l.indents with
    | n :: _ => n + 1
    | [] => 0
  let s ← readPlain l.inFlow least l.mark l.mark false .empty l.cursor.last l.cursor.rest
  return { l with cursor := s.after, allowsKey := s.isBroken }.emit (.scalar s.text .plain) l.mark s.stop

/-- Characters that do not begin a plain scalar unless more is said about them. -/
def isIndicatorChar (x : Char) : Bool := "-?:,[]\x7b\x7d#&*!|>'\"%@\x60".toList.contains x

/-- Whether a plain scalar begins at the cursor with the character `x`. -/
def startsPlain (l : Lexer) (x : Char) : Bool :=
  (!isGap x && !isBreak x && !isIndicatorChar x) || (x = '-' && !(l.cursor.char? 1).any isGap) ||
    (!l.inFlow && (x = '?' || x = ':') && !l.cursor.endsWord 1)

/-- Reads the next token, at the cursor. -/
def lexToken (l : Lexer) : Except SyntaxError Lexer := do
  let marks := l.inFlow || l.cursor.endsWord 1
  match l.cursor.char? 0 with
  | none => l.readEnd
  | some x =>
    if x = '%' && l.mark.column = 0 then return ← l.lexDirective
    if l.cursor.isSeparator '-' then return ← l.lexIndicator .documentStart
    if l.cursor.isSeparator '.' then return ← l.lexIndicator .documentEnd
    match x, marks, l.inFlow with
    | '[', _, _ => l.lexOpening .flowSequenceStart
    | '{', _, _ => l.lexOpening .flowMappingStart
    | ']', _, _ => l.lexClosing .flowSequenceEnd
    | '}', _, _ => l.lexClosing .flowMappingEnd
    | ',', _, _ => l.lexComma
    | '?', true, _ => l.lexQuestion
    | ':', true, _ => l.lexColon
    | '*', _, _ => l.lexName .reference .reference
    | '&', _, _ => l.lexName .anchor .anchor
    | '!', _, _ => l.lexTag
    | '|', _, false => l.lexBlock .literal
    | '>', _, false => l.lexBlock .folded
    | '\'', _, _ => l.lexQuoted '\'' .singleQuoted
    | '"', _, _ => l.lexQuoted '"' .doubleQuoted
    | _, _, _ =>
      if x = '-' && l.cursor.endsWord 1 then l.lexHyphen
      else if l.startsPlain x then l.lexPlain
      else throw (.during .nextToken l.mark .strayCharacter l.mark)

/-- Reads one more token, and what indentation says in front of it. -/
def step (l : Lexer) : Except SyntaxError Lexer := do
  let l ← l.toNextToken.refresh
  (← (l.dedent (some l.mark.column)).lexToken).refresh

/-- The tokens that no key can come in front of any more. -/
def settled (l : Lexer) : List Token :=
  let numbers := (l.candidate :: l.outer).filterMap (Option.map (·.number))
  (l.tokens.drop (l.count - numbers.foldl min l.count)).reverse

end Lexer

/-- The tokens of a text, and what went wrong behind them. -/
structure Tokens where
  tokens : List Token
  failure : Option SyntaxError
  deriving DecidableEq, Repr

/-- Whether the end of the text has been read. -/
def Lexer.isDone (l : Lexer) : Bool := l.tokens.head?.any (·.kind = .streamEnd)

/-- Whether reading reached a place in a portion that cannot be read. -/
def Spoiled.isMet (spoiled : Option Spoiled) (m : Mark) : Bool := spoiled.any (·.start ≤ m.index)

/-- What is wrong with a portion that cannot be read. -/
def Spoiled.error (s : Spoiled) : SyntaxError :=
  .plain .controlCharacter { Mark.start with index := s.index }

/-- Reads tokens up to the end of the text, or to a portion that cannot be read, in at most so many steps. -/
def Lexer.run (spoiled : Option Spoiled) : Nat → Lexer → Tokens
  | 0, l => { tokens := l.settled, failure := none }
  | n + 1, l =>
    match l.step with
    | .error e =>
      let failure := if Spoiled.isMet spoiled e.place then spoiled.map Spoiled.error else some e
      { tokens := l.settled, failure }
    | .ok next =>
      if Spoiled.isMet spoiled next.mark then { tokens := l.settled, failure := spoiled.map Spoiled.error }
      else if next.isDone then { tokens := next.tokens.reverse, failure := none }
      else next.run spoiled n

/-- Splits a text into tokens. Every step but the last one reads a character. -/
def Tokens.ofText (text : List Char) : Tokens :=
  let (letters, last) := locate .start text
  (Lexer.start letters last).run (spoiled? 0 0 text) (letters.length + 1)

end Patchbay.Yaml
