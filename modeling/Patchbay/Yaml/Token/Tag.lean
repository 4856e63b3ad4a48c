import Patchbay.Yaml.Token.Scalar
/-!
# Reading directives, anchors and tags

The tokens that say something about the tokens around them.
-/

namespace Patchbay.Yaml

/-- Characters of a tag. The brackets and the comma only count where nothing else could be meant. -/
def isTagChar (isWide : Bool) (x : Char) : Bool :=
  isNameChar x || ";/?:@&=+$.%!~*'()".toList.contains x || (isWide && (x = ',' || x = '[' || x = ']'))

/-- How many octets a character has that begins with this one. -/
def octetWidth? (first : Nat) : Option Nat :=
  if first < 0x80 then some 1
  else if 0xC0 ≤ first && first < 0xE0 then some 2
  else if 0xE0 ≤ first && first < 0xF0 then some 3
  else if 0xF0 ≤ first && first < 0xF8 then some 4
  else none

/-- Whether an octet may stand behind the first one of a character. -/
def isTrailing (octet : Nat) : Bool := 0x80 ≤ octet && octet < 0xC0

/-- The octet that a percent sign and two digits stand for. -/
def octet? (c : Cursor) : Option Nat :=
  match c.char? 0, c.char? 1, c.char? 2 with
  | some '%', some a, some b => hexNumber? [a, b]
  | _, _, _ => none

/-- Reads so many escaped octets behind the first one of a character. -/
def readTrailing (activity : Activity) (start : Mark) : Nat → Cursor → Except SyntaxError (List Char × Cursor)
  | 0, c => .ok ([], c)
  | n + 1, c =>
    match octet? c with
    | none => .error (.during activity start .uriEscape c.mark)
    | some b =>
      if isTrailing b then (readTrailing activity start n (c.skip 3)).map fun (cs, c) => (.ofNat b :: cs, c)
      else .error (.during activity start .trailingOctet c.mark)

/-- Reads the escaped octets of one character. An octet is kept as the character of its number, and which
character they make together is not asked. -/
def readOctets (activity : Activity) (start : Mark) (c : Cursor) : Except SyntaxError (List Char × Cursor) :=
  match octet? c with
  | none => .error (.during activity start .uriEscape c.mark)
  | some b =>
    match octetWidth? b with
    | none => .error (.during activity start .leadingOctet c.mark)
    | some width =>
      (readTrailing activity start (width - 1) (c.skip 3)).map fun (cs, c) => (.ofNat b :: cs, c)

theorem length_le_of_readTrailing {activity : Activity} {start : Mark} {n : Nat} {c next : Cursor}
    {cs : List Char} (h : readTrailing activity start n c = .ok (cs, next)) :
    next.rest.length ≤ c.rest.length := by
  induction n generalizing c cs with
  | zero =>
    cases h
    exact Nat.le_refl _
  | succ n ih =>
    simp only [readTrailing] at h
    split at h
    · cases h
    split at h
    · cases hr : readTrailing activity start n (c.skip 3) with
      | error e => simp [hr, Except.map] at h
      | ok r =>
        obtain ⟨ds, after⟩ := r
        simp only [hr, Except.map, Except.ok.injEq, Prod.mk.injEq] at h
        obtain ⟨-, rfl⟩ := h
        exact Nat.le_trans (ih hr) (Cursor.length_skip_le c 3)
    · cases h

theorem length_lt_of_readOctets {activity : Activity} {start : Mark} {c next : Cursor} {x : Char}
    {cs : List Char} (hx : c.char? 0 = some x) (h : readOctets activity start c = .ok (cs, next)) :
    next.rest.length < c.rest.length := by
  simp only [readOctets] at h
  split at h
  · cases h
  split at h
  · cases h
  · rename_i width _
    cases hr : readTrailing activity start (width - 1) (c.skip 3) with
    | error e => simp [hr, Except.map] at h
    | ok r =>
      obtain ⟨ds, after⟩ := r
      simp only [hr, Except.map, Except.ok.injEq, Prod.mk.injEq] at h
      obtain ⟨-, rfl⟩ := h
      exact Nat.lt_of_le_of_lt (length_le_of_readTrailing hr) (Cursor.length_skip_lt hx (by decide))

/-- Reads the characters of a tag behind those in `acc`, which are in reverse. -/
def readTagChars (isWide : Bool) (activity : Activity) (start : Mark) (acc : List Char) (c : Cursor) :
    Except SyntaxError (List Char × Cursor) :=
  match _hx : c.char? 0 with
  | none => .ok (acc.reverse, c)
  | some x =>
    if !isTagChar isWide x then .ok (acc.reverse, c)
    else if x ≠ '%' then readTagChars isWide activity start (x :: acc) (c.skip 1)
    else match _h : readOctets activity start c with
      | .error e => .error e
      | .ok (cs, next) => readTagChars isWide activity start (cs.reverse ++ acc) next
  termination_by c.rest.length
  decreasing_by
    · exact Cursor.length_skip_lt ‹_› (by decide)
    · exact length_lt_of_readOctets ‹_› ‹_›

/-- Reads a tag, or its part behind what stands in front of it already. A NUL ends what counts of it. -/
def readTagUri (isWide : Bool) (activity : Activity) (start : Mark) (front : List Char) (c : Cursor) :
    Except SyntaxError (String × Cursor) := do
  let (cs, next) ← readTagChars isWide activity start [] c
  if front.isEmpty && cs.isEmpty then throw (.during activity start .tagUri next.mark)
  return (String.ofList ((front.drop 1 ++ cs).takeWhile (· ≠ '\x00')), next)

/-- Reads the handle of a tag: an exclamation mark, or a name between two of them. A handle that a
directive declares is one of these; elsewhere a name without the second mark is the tag itself. -/
def readHandle (isDeclared : Bool) (start : Mark) (c : Cursor) : Except SyntaxError (String × Cursor) := do
  let fail (activity : Activity) := SyntaxError.during activity start .tagOpen
  if !c.isAt '!' then throw (fail (if isDeclared then .declaration else .tag) c.mark)
  let name := (c.skip 1).takeWhile isNameChar
  let next := c.skip (1 + name.length)
  if next.isAt '!' then return (String.ofList ('!' :: name ++ ['!']), next.skip 1)
  if isDeclared && !name.isEmpty then throw (fail .declaredHandle next.mark)
  return (String.ofList ('!' :: name), next)

/-- Reads a tag: handle and suffix. -/
def readTag (inFlow : Bool) (c : Cursor) : Except SyntaxError (TokenKind × Cursor) := do
  let start := c.mark
  let (kind, c) ← if c.char? 1 = some '<' then do
      let (suffix, c) ← readTagUri true .tagUri start [] (c.skip 2)
      if !c.isAt '>' then throw (.during .tag start .tagClose c.mark)
      pure (TokenKind.tag "" suffix, c.skip 1)
    else do
      let (handle, c) ← readHandle false start c
      if 2 ≤ handle.length && handle.toList.getLast? = some '!' then
        let (suffix, c) ← readTagUri false .tagUri start [] c
        pure (.tag handle suffix, c)
      else
        let (suffix, c) ← readTagUri false .tagUri start handle.toList c
        pure (if suffix = "" then .tag "" "!" else .tag "!" suffix, c)
  if c.endsWord 0 || (inFlow && c.isAt ',') then return (kind, c)
  throw (.during .tag start .gapOrBreak c.mark)

/-- Whether a name may end in front of the character at the cursor. -/
def endsName (c : Cursor) : Bool :=
  c.endsWord 0 || (c.char? 0).any fun x => "?:,]\x7d%@\x60".toList.contains x

/-- Reads the name of an anchor or an alias. -/
def readName (activity : Activity) (c : Cursor) : Except SyntaxError (String × Cursor) :=
  let start := c.mark
  let name := (c.skip 1).takeWhile isNameChar
  let c := c.skip (1 + name.length)
  if name.isEmpty || !endsName c then .error (.during activity start .anchorName c.mark)
  else .ok (String.ofList name, c)

/-- The most digits of a version number. -/
def maxVersionDigits : Nat := 9

/-- Reads a version number. -/
def readVersionNumber (start : Mark) (c : Cursor) : Except SyntaxError (Nat × Cursor) :=
  let digits := c.takeWhile Char.isDigit
  let fail (p : Problem) (n : Nat) := SyntaxError.during .versionDirective start p (c.skip n).mark
  if maxVersionDigits < digits.length then .error (fail .versionTooLong maxVersionDigits)
  else if digits.isEmpty then .error (fail .versionMissing 0)
  else .ok (digits.foldl (fun n d => n * 10 + (d.toNat - '0'.toNat)) 0, c.skip digits.length)

/-- Reads what a directive states, behind its name. -/
def readDirectiveValue (start : Mark) (name : String) (c : Cursor) :
    Except SyntaxError (TokenKind × Cursor) := do
  match name with
  | "YAML" =>
    let (major, c) ← readVersionNumber start (c.skipWhile isGap)
    if !c.isAt '.' then throw (.during .versionDirective start .versionSeparator c.mark)
    let (minor, c) ← readVersionNumber start (c.skip 1)
    return (.version major minor, c)
  | "TAG" =>
    let (handle, c) ← readHandle true start (c.skipWhile isGap)
    if !(c.char? 0).any isGap then throw (.during .tagDirective start .tagDirectiveGap c.mark)
    let (front, c) ← readTagUri true .declaredUri start [] (c.skipWhile isGap)
    if !c.endsWord 0 then throw (.during .tagDirective start .gapOrBreak c.mark)
    return (.handle handle front, c)
  | _ => throw (.during .directive start .unknownDirective c.mark)

/-- Reads a directive and the rest of its line. -/
def readDirective (c : Cursor) : Except SyntaxError (TokenKind × Mark × Cursor) := do
  let start := c.mark
  let name := (c.skip 1).takeWhile isNameChar
  let c := c.skip (1 + name.length)
  if name.isEmpty then throw (.during .directive start .directiveName c.mark)
  if !c.endsWord 0 then throw (.during .directive start .directiveNameTail c.mark)
  let (kind, c) ← readDirectiveValue start (String.ofList name) c
  let stop := c.mark
  let c := c.skipComment
  if !c.endsLine 0 then throw (.during .directive start .directiveTail c.mark)
  return (kind, stop, c.skipBreak)

end Patchbay.Yaml
