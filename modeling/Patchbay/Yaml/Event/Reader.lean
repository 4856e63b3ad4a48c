import Patchbay.Yaml.Event
import Patchbay.Yaml.Token.Lexer
/-!
# Reading events from tokens

The tokens of a stream of documents are read by descent, and each node gives its events on the way. Reading
stops at the first token that does not fit, or where no more tokens could be had, and the events up to
there stay. `Document.ofText` reads the first document, and looks whether something follows it.

Every call reads at least one token or is made by one that did, so that a depth of four calls for each
token is never reached.
-/

namespace Patchbay.Yaml

/-- What is left to read, and what has been read. -/
structure Reading where
  tokens : List Token
  /-- Why there are no more tokens. -/
  failure : Option SyntaxError
  /-- What the handles of tags stand for. -/
  handles : List (String × String)
  /-- The number of each name of an anchor. -/
  names : List (String × Nat)
  /-- How many events stand in front of the node of an anchor, by number, the latest first. -/
  anchors : List (Nat × Nat)
  events : Array Event

/-- Gives an anchor to the next event. Its number is that of the names so far, so that a name that comes
again leaves a number to be given twice; the latest node has it then. -/
def Reading.declare (r : Reading) (name : String) : Reading :=
  let number := r.names.length
  { r with
    names := (name, number) :: r.names.filter (·.1 ≠ name)
    anchors := (number, r.events.size) :: r.anchors }

/-- A step of reading. What has been read stays when it fails. -/
abbrev Reader := ExceptT DocumentError (StateM Reading)

namespace Reader

/-- Fails. -/
def fail {α : Type} (e : SyntaxError) : Reader α := throw (.malformed e)

/-- The next token. -/
def peek : Reader Token := do
  let r ← get
  match r.tokens, r.failure with
  | t :: _, _ => return t
  | [], some e => fail e
  | [], none => fail (.plain .unexpectedEnd .start)

/-- Moves over the next token. -/
def skip : Reader Unit := modify fun r => { r with tokens := r.tokens.drop 1 }

/-- Moves over the next token and gives the one behind it. -/
def skipPeek : Reader Token := do
  skip
  peek

/-- Appends an event. -/
def emit (kind : EventKind) (mark : Mark) : Reader Unit :=
  modify fun r => { r with events := r.events.push { kind, mark } }

/-- Appends the first event of a node, which may have an anchor. -/
def emitNode (anchor : Option String) (kind : EventKind) (mark : Mark) : Reader Unit := do
  modify fun r => anchor.elim r r.declare
  emit kind mark

/-- Appends a scalar that is not there. -/
def emitNothing (mark : Mark) : Reader Unit := emit .nothing mark

/-- What the handle of a tag stands for without a directive. -/
def standardHandle? (handle : String) : Option String :=
  match handle with
  | "!" => some "!"
  | "!!" => some "tag:yaml.org,2002:"
  | _ => none

/-- The tag that a handle and a suffix make. -/
def resolveTag (start place : Mark) (handle suffix : String) : Reader String := do
  if handle = "" then return suffix
  match ((← get).handles.lookup handle).orElse fun _ => standardHandle? handle with
  | some front => return front ++ suffix
  | none => fail (.during .node start .undefinedHandle place)

/-- The name of an anchor, if the next token is one. -/
def anchor? : Reader (Option String) := do
  match (← peek).kind with
  | .anchor name => skip; return some name
  | _ => return none

/-- The place, handle and suffix of a tag, if the next token is one. -/
def tag? : Reader (Option (Mark × String × String)) := do
  let t ← peek
  match t.kind with
  | .tag handle suffix => skip; return some (t.start, handle, suffix)
  | _ => return none

/-- Anchor and tag in front of a node, in either order. -/
def properties : Reader (Option String × Option String) := do
  let start := (← peek).start
  let first ← anchor?
  let tag ← tag?
  let anchor ← if first.isNone && tag.isSome then anchor? else pure first
  match tag with
  | none => return (anchor, none)
  | some (mark, handle, suffix) => return (anchor, some (← resolveTag start mark handle suffix))

/-- Reads a reference. -/
def readReference (name : String) (mark : Mark) : Reader Unit := do
  match (← get).names.lookup name with
  | some k => skip; emit (.reference k) mark
  | none => throw (.unknownAnchor mark)

/-- Whether a token cannot begin the key or value of a block mapping. -/
def endsMappingPart : TokenKind → Bool
  | .key | .value | .blockEnd => true
  | _ => false

mutual

/-- Reads a node. Block collections only count where `isBlock` is set, and a sequence that is not indented
further than the mapping around it where `isLoose` is. -/
def readNode : Nat → Bool → Bool → Reader Unit
  | 0, _, _ => fail (.plain .nodeContent .start)
  | depth + 1, isBlock, isLoose => do
    let t ← peek
    match t.kind with
    | .reference name => readReference name t.start
    | _ =>
      let start := t.start
      let (anchor, tag) ← properties
      let t ← peek
      match t.kind, isBlock, isLoose with
      | .blockEntry, _, true => emitNode anchor .sequenceStart start; readLoose depth
      | .scalar text style, _, _ => skip; emitNode anchor (.scalar tag style text) start
      | .flowSequenceStart, _, _ => emitNode anchor .sequenceStart start; skip; readFlowItems depth t.start true
      | .flowMappingStart, _, _ => emitNode anchor .mappingStart start; skip; readFlowPairs depth t.start true
      | .blockSequence, true, _ => emitNode anchor .sequenceStart start; skip; readItems depth t.start
      | .blockMapping, true, _ => emitNode anchor .mappingStart start; skip; readPairs depth t.start
      | _, _, _ =>
        if anchor.isSome || tag.isSome then emitNode anchor (.scalar tag .plain "") start
        else fail (.during (if isBlock then .blockNode else .flowNode) start .nodeContent t.start)

/-- Reads the entries of a block sequence. -/
def readItems : Nat → Mark → Reader Unit
  | 0, _ => fail (.plain .nodeContent .start)
  | depth + 1, start => do
    let t ← peek
    match t.kind with
    | .blockEnd => skip; emit .sequenceEnd t.start
    | .blockEntry =>
      let next ← skipPeek
      match next.kind with
      | .blockEntry | .blockEnd => emitNothing t.stop
      | _ => readNode depth true false
      readItems depth start
    | _ => fail (.during .blockCollection start .sequenceEntry t.start)

/-- Reads the entries of a block sequence without a token of its own. -/
def readLoose : Nat → Reader Unit
  | 0 => fail (.plain .nodeContent .start)
  | depth + 1 => do
    let t ← peek
    match t.kind with
    | .blockEntry =>
      let next ← skipPeek
      match next.kind with
      | .blockEntry | .key | .value | .blockEnd => emitNothing t.stop
      | _ => readNode depth true false
      readLoose depth
    | _ => emit .sequenceEnd t.start

/-- Reads the entries of a block mapping. -/
def readPairs : Nat → Mark → Reader Unit
  | 0, _ => fail (.plain .nodeContent .start)
  | depth + 1, start => do
    let t ← peek
    match t.kind with
    | .blockEnd => skip; emit .mappingEnd t.start
    | .key =>
      let next ← skipPeek
      if endsMappingPart next.kind then emitNothing t.stop else readNode depth true true
      readValue depth
      readPairs depth start
    | _ => fail (.during .blockMapping start .mappingKey t.start)

/-- Reads the value of an entry of a block mapping. -/
def readValue : Nat → Reader Unit
  | 0 => fail (.plain .nodeContent .start)
  | depth + 1 => do
    let t ← peek
    match t.kind with
    | .value =>
      let next ← skipPeek
      if endsMappingPart next.kind then emitNothing t.stop else readNode depth true true
    | _ => emitNothing t.start

/-- Reads the entries of a flow sequence. An entry may be a mapping of one pair. -/
def readFlowItems : Nat → Mark → Bool → Reader Unit
  | 0, _, _ => fail (.plain .nodeContent .start)
  | depth + 1, start, isFirst => do
    let t ← peek
    if t.kind = .flowSequenceEnd then do skip; return ← emit .sequenceEnd t.start
    let t ← if isFirst then pure t
      else if t.kind = .flowEntry then skipPeek
      else fail (.during .flowSequence start .flowSequenceNext t.start)
    match t.kind with
    | .flowSequenceEnd => skip; emit .sequenceEnd t.start
    | .key =>
      emit .mappingStart t.start
      skip
      readFlowPair depth
      readFlowItems depth start false
    | _ =>
      readNode depth false false
      readFlowItems depth start false

/-- Reads the only pair of a mapping within a flow sequence, behind its question mark. -/
def readFlowPair : Nat → Reader Unit
  | 0 => fail (.plain .nodeContent .start)
  | depth + 1 => do
    let t ← peek
    match t.kind with
    | .value | .flowEntry | .flowSequenceEnd => skip; emitNothing t.stop
    | _ => readNode depth false false
    let t ← peek
    if t.kind = .value then
      let t ← skipPeek
      match t.kind with
      | .flowEntry | .flowSequenceEnd => emitNothing t.start
      | _ => readNode depth false false
    else emitNothing t.start
    emit .mappingEnd (← peek).start

/-- Reads the entries of a flow mapping. -/
def readFlowPairs : Nat → Mark → Bool → Reader Unit
  | 0, _, _ => fail (.plain .nodeContent .start)
  | depth + 1, start, isFirst => do
    let t ← peek
    if t.kind = .flowMappingEnd then do skip; return ← emit .mappingEnd t.start
    let t ← if isFirst then pure t
      else if t.kind = .flowEntry then skipPeek
      else fail (.during .flowMapping start .flowMappingNext t.start)
    match t.kind with
    | .flowMappingEnd => skip; emit .mappingEnd t.start
    | .key =>
      let next ← skipPeek
      match next.kind with
      | .value | .flowEntry | .flowMappingEnd => emitNothing next.start
      | _ => readNode depth false false
      readFlowValue depth
      readFlowPairs depth start false
    | _ =>
      readNode depth false false
      emitNothing (← peek).start
      readFlowPairs depth start false

/-- Reads the value of an entry of a flow mapping. -/
def readFlowValue : Nat → Reader Unit
  | 0 => fail (.plain .nodeContent .start)
  | depth + 1 => do
    let t ← peek
    if t.kind = .value then
      let next ← skipPeek
      match next.kind with
      | .flowEntry | .flowMappingEnd => emitNothing next.start
      | _ => readNode depth false false
    else emitNothing t.start

end

/-- Reads the directives in front of a document. -/
def readDirectives : Nat → Bool → Reader Unit
  | 0, _ => return
  | n + 1, hasVersion => do
    let t ← peek
    match t.kind with
    | .version major minor =>
      if hasVersion then fail (.plain .duplicateVersion t.start)
      if major ≠ 1 || (minor ≠ 1 && minor ≠ 2) then fail (.plain .wrongVersion t.start)
      skip
      readDirectives n true
    | .handle name front =>
      if ((← get).handles.lookup name).isSome then fail (.plain .duplicateTag t.start)
      modify fun r => { r with handles := (name, front) :: r.handles }
      skip
      readDirectives n hasVersion
    | _ => return

/-- Whether a token begins or ends a document or the stream. -/
def isBoundary : TokenKind → Bool
  | .version .. | .handle .. | .documentStart | .documentEnd | .streamEnd => true
  | _ => false

/-- Whether a token begins a document that is announced, or ends the stream. -/
def isAnnounced : TokenKind → Bool
  | .version .. | .handle .. | .documentStart | .streamEnd => true
  | _ => false

/-- Reads the first document of a stream up to its end. Where there is none it holds nothing. -/
def readDocument : Reader Unit := do
  let depth := 4 * (← get).tokens.length + 4
  let t ← skipPeek
  if t.kind = .streamEnd then return ← emitNothing t.start
  if !isAnnounced t.kind then readNode depth true false
  else
    readDirectives depth false
    let t ← peek
    if t.kind ≠ .documentStart then fail (.plain .documentStart t.start)
    let t ← skipPeek
    if isBoundary t.kind then emitNothing t.start else readNode depth true false
  if (← peek).kind = .documentEnd then skip

/-- Whether nothing follows a document but more signs of its end. -/
def isLast (tokens : List Token) : Bool :=
  match tokens.dropWhile fun t => t.kind = .documentEnd with
  | t :: _ => t.kind = .streamEnd
  | [] => false

end Reader

/-- Reads a text that should be one document, or none. -/
def Document.ofText (text : List Char) : Document :=
  let ts := Tokens.ofText text
  let (outcome, r) := Reader.readDocument.run.run
    { tokens := ts.tokens, failure := ts.failure, handles := [], names := [], anchors := [], events := #[] }
  let failure := match outcome with
    | .error e => some e
    | .ok () => if Reader.isLast r.tokens then none else some .severalDocuments
  { events := r.events.toList, anchors := r.anchors, failure }

end Patchbay.Yaml
