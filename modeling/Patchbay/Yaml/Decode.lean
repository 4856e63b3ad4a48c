import Patchbay.Text.Quoted
import Patchbay.Text.Shortest
import Patchbay.Yaml.Event.Reader
import Patchbay.Yaml.Meaning.Tagged
/-!
# Reading typed values from events

Readers say what they expect and fail at the first node that is something else, with the keys that lead to
it and its place. They read the node that begins with the first of some events, in the order of the text,
so that of two faults the first one counts, also where the document breaks off behind it. Plain scalars
are read by what they mean; a text may be any scalar, whatever it means.
-/

namespace Patchbay.Yaml

/-- What a node was found to be. -/
inductive Found where
  | unit
  | boolean (b : Bool)
  | integer (n : Int)
  | real (value : Text.Binary)
  | text (s : String)
  | sequence
  | mapping
  deriving DecidableEq, Repr

namespace Found

/-- A text with a meaning. -/
def ofMeaning (s : String) : Meaning → Found
  | .null => unit
  | .boolean b => boolean b
  | .integer n => integer n
  | .real x => real x
  | .text => text s

/-- The largest integers that are told without their width, above and below zero. -/
def wideFrom : Int := UInt64.size

/-- What was found, in words. -/
def words : Found → String
  | unit => "unit value"
  | boolean b => "boolean \x60" ++ toString b ++ "\x60"
  | integer n =>
    "integer \x60" ++ toString n ++ "\x60" ++
      (if wideFrom ≤ n then " as u128" else if n < -0x8000000000000000 then " as i128" else "")
  | real x => "floating point \x60" ++ Text.shortest x ++ "\x60"
  | text s => "string " ++ Text.Quoted.text s
  | sequence => "sequence"
  | mapping => "map"

end Found

/-- Why a value could not be read. -/
inductive Misfit where
  | wrongType (found : Found) (expected : String)
  | wrongValue (found : Found) (expected : String)
  | missingField (name : String)
  | duplicateField (name : String)
  deriving DecidableEq, Repr

/-- The wording of a misfit. -/
def Misfit.text : Misfit → String
  | wrongType found expected => "invalid type: " ++ found.words ++ ", expected " ++ expected
  | wrongValue found expected => "invalid value: " ++ found.words ++ ", expected " ++ expected
  | missingField name => "missing field \x60" ++ name ++ "\x60"
  | duplicateField name => "duplicate field \x60" ++ name ++ "\x60"

/-- The keys that lead to a value, and its place. -/
structure Spot where
  keys : List String
  mark : Mark
  deriving DecidableEq, Repr

/-- Why values could not be read from a document. -/
inductive DecodeError where
  /-- The document breaks off before the value ends. -/
  | incomplete
  /-- Something does not fit, at some spot once that is known. -/
  | misfit (cause : Misfit) (spot : Option Spot)
  deriving DecidableEq, Repr

namespace DecodeError

/-- Says where a misfit is, unless that is known. -/
def placed (spot : Spot) : DecodeError → DecodeError
  | misfit cause none => misfit cause (some spot)
  | e => e

def message : DecodeError → String
  | incomplete => DocumentError.endsEarly.message
  | misfit cause none => cause.text
  | misfit cause (some spot) =>
    (if spot.keys.isEmpty then "" else ".".intercalate spot.keys ++ ": ") ++ cause.text ++
      (if spot.mark.isOrigin then "" else " at " ++ spot.mark.text)

end DecodeError

/-- Reads the node of a document that begins with the first of these events, and which `keys` lead to. -/
abbrev Decoder (α : Type) := Document → List String → List Event → Except DecodeError α

namespace Decoder

/-- What a plain scalar is found to be. -/
def foundPlain (s : String) : Found := .ofMeaning s (Meaning.ofPlain s.toList)

/-- Whether a tag leaves it open what a plain scalar means. -/
def isLocal (tag : String) : Bool := tag.toList.head? = some '!'

/-- How a scalar does not fit. A tag may say what it is, and then its text has to spell that. Without such
a tag only plain scalars are more than texts. -/
def misfitScalar (expected : String) (tag : Option String) (style : Style) (s : String) : Misfit :=
  let isOpen := style = .plain && tag.all isLocal
  match tag.bind ScalarTag.ofText? with
  | none => .wrongType (if isOpen then foundPlain s else .text s) expected
  | some t =>
    match t.read? s.toList with
    | some meaning => .wrongType (.ofMeaning s meaning) expected
    | none => .wrongValue (.text s) t.expected

/-- How a node does not fit that begins with an event. -/
def mistyped (expected : String) (e : Event) : DecodeError :=
  match e.kind with
  | .scalar tag style s => .misfit (misfitScalar expected tag style s) none
  | .sequenceStart => .misfit (.wrongType .sequence expected) none
  | .mappingStart => .misfit (.wrongType .mapping expected) none
  | .sequenceEnd | .mappingEnd | .reference _ => .incomplete

/-- Reads a node, or the one that it refers to, by its first event and those behind it. A misfit is placed
here unless it comes from a part that has placed it. -/
def node {α : Type} (read : Document → List String → Event → List Event → Except DecodeError α) : Decoder α :=
  fun d keys es =>
    match d.follow es with
    | [] => .error .incomplete
    | e :: rest => (read d keys e rest).mapError (·.placed { keys, mark := e.mark })

/-- A natural number below `bound`, of a type of this name. -/
def natural (bound : Nat) (typeName : String) : Decoder Nat := node fun _ _ e _ =>
  match e.kind with
  | .scalar tag style s =>
    if style = .plain || (style = .literal && tag = some ScalarTag.integer.text) then
      match Meaning.natural? Found.wideFrom.toNat s.toList with
      | some k => if k < bound then .ok k else .error (.misfit (.wrongValue (.integer k) typeName) none)
      | none => .error (mistyped typeName e)
    else .error (mistyped typeName e)
  | _ => .error (mistyped typeName e)

/-- A sixteen-bit word. -/
def word16 : Decoder UInt16 := fun d keys es => (natural UInt16.size "u16" d keys es).map UInt16.ofNat

/-- A word of 32 bits. -/
def word32 : Decoder UInt32 := fun d keys es => (natural UInt32.size "u32" d keys es).map UInt32.ofNat

/-- A word of 64 bits. -/
def word64 : Decoder UInt64 := fun d keys es => (natural UInt64.size "u64" d keys es).map UInt64.ofNat

/-- A word of 64 bits that counts things. -/
def size : Decoder UInt64 := fun d keys es => (natural UInt64.size "usize" d keys es).map UInt64.ofNat

/-- Any scalar, as it reads. -/
def text (expected : String) : Decoder String := node fun _ _ e _ =>
  match e.kind with
  | .scalar _ _ s => .ok s
  | _ => .error (mistyped expected e)

/-- Whether a node says nothing. Under the tag of nothing it has to. -/
def isNothing (e : Event) : Except DecodeError Bool :=
  match e.kind with
  | .scalar none .plain s => .ok (s = "" || Meaning.isNull s.toList)
  | .scalar (some tag) .plain s =>
    if tag ≠ ScalarTag.null.text then .ok false
    else if Meaning.isNull s.toList then .ok true
    else .error (.misfit (.wrongValue (.text s) ScalarTag.null.expected) none)
  | _ => .ok false

/-- A value that may be left out by saying nothing. A misfit of the tag of nothing is placed by the mapping
around it. -/
def optional {α : Type} (r : Decoder α) : Decoder (Option α) := fun d keys es =>
  match d.follow es with
  | [] => .error .incomplete
  | e :: rest =>
    match isNothing e with
    | .error error => .error error
    | .ok true => .ok none
    | .ok false => (r d keys (e :: rest)).map some

/-- A field of a mapping: its key, and how its value changes what has been read. -/
structure Field (σ : Type) where
  name : String
  read : Decoder (σ → σ)

/-- A field whose value is put into what has been read. -/
def field {σ α : Type} (name : String) (r : Decoder α) (set : α → σ → σ) : Field σ :=
  { name, read := fun d keys es => (r d keys es).map set }

/-- How a key is told. Only one that is spelled out is. -/
def keyText (key : Event) : String :=
  match key.kind with
  | .scalar _ _ s => s
  | _ => "?"

/-- Reads the entries of a mapping up to its end. Unknown keys are passed over, and no known one comes
twice; `seen` are those that came. -/
def entries {σ : Type} (fields : List (Field σ)) (d : Document) (keys : List String) (seen : List String)
    (s : σ) (es : List Event) : Except DecodeError σ :=
  match es with
  | [] => .error .incomplete
  | key :: value =>
    if key.kind = .mappingEnd then .ok s
    else match text "field identifier" d keys (key :: value) with
      | .error e => .error e
      | .ok name =>
        let known := fields.find? (·.name = name)
        if known.isSome && seen.contains name then .error (.misfit (.duplicateField name) none)
        else
          let read : Except DecodeError σ := match known with
            | none => .ok s
            | some f => (f.read d (keys ++ [keyText key]) value).map (· s)
          match read with
          | .error e => .error e
          | .ok s =>
            match _h : afterNode value with
            | none => .error .incomplete
            | some rest => entries fields d keys (if known.isSome then name :: seen else seen) s rest
  termination_by es.length
  decreasing_by
    have := length_lt_of_afterNode ‹_›
    simp only [List.length_cons]
    omega

/-- A mapping with these fields. Nothing at all is an empty mapping. `finish` makes the value of what has
been read, unless something is missing. -/
def record {σ α : Type} (expected : String) (fields : List (Field σ)) (start : σ)
    (finish : σ → Except Misfit α) : Decoder α := node fun d keys e rest =>
  let read : Except DecodeError σ := match e.kind with
    | .mappingStart => entries fields d keys [] start rest
    | .scalar _ .plain "" => .ok start
    | _ => .error (mistyped expected e)
  match read with
  | .error error => .error error
  | .ok s => (finish s).mapError (.misfit · none)

/-- A mapping with these fields, all of which may be missing. -/
def fields {σ : Type} (expected : String) (fields : List (Field σ)) (start : σ) : Decoder σ :=
  record expected fields start .ok

end Decoder
end Patchbay.Yaml
