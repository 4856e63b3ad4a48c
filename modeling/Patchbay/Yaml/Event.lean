import Patchbay.Yaml.Token
/-!
# Events

A document as a sequence of events, once indentation and punctuation are gone: a scalar is one event, a
collection opens and closes and has its nodes in between, keys and values in turn. A document that breaks
off keeps the events up to there, so that a reader finds what comes before the break.

`afterNode` passes over the node that begins with the first event. It is left with fewer events.
-/

namespace Patchbay.Yaml

/-- What an event says. -/
inductive EventKind where
  | scalar (tag : Option String) (style : Style) (text : String)
  | sequenceStart
  | sequenceEnd
  | mappingStart
  | mappingEnd
  /-- Stands for the node of an anchor, by its number. -/
  | reference (anchor : Nat)
  deriving DecidableEq, Repr

/-- A scalar that is not there. -/
def EventKind.nothing : EventKind := .scalar none .plain ""

/-- An event and its place. -/
structure Event where
  kind : EventKind
  mark : Mark
  deriving DecidableEq, Repr

/-- What is wrong with a text that is not one document. -/
inductive DocumentError where
  | malformed (cause : SyntaxError)
  /-- A reference whose anchor is not above it. -/
  | unknownAnchor (mark : Mark)
  /-- Another document follows. -/
  | severalDocuments
  /-- A value is missing at the end. -/
  | endsEarly
  deriving DecidableEq, Repr

def DocumentError.message : DocumentError → String
  | malformed e => e.message
  | unknownAnchor m => "unknown anchor" ++ (if m.isOrigin then "" else " at " ++ m.text)
  | severalDocuments => "deserializing from YAML containing more than one document is not supported"
  | endsEarly => "EOF while parsing a value"

/-- A document, as far as it can be read. -/
structure Document where
  events : List Event
  /-- How many events stand in front of the node of an anchor, by the number of the anchor. -/
  anchors : List (Nat × Nat)
  /-- What is wrong behind the last event. -/
  failure : Option DocumentError
  deriving DecidableEq, Repr

/-- Goes on with the node that a reference stands for, if the first event is one. -/
def Document.follow (d : Document) (es : List Event) : List Event :=
  match es with
  | { kind := .reference k, .. } :: _ => ((d.anchors.lookup k).map d.events.drop).getD []
  | es => es

/-- How many collections are open behind an event in front of which `opened` are. -/
def EventKind.openAfter (opened : Nat) : EventKind → Nat
  | sequenceStart | mappingStart => opened + 1
  | sequenceEnd | mappingEnd => opened - 1
  | scalar .. | reference _ => opened

/-- What follows the node in which `opened` collections are open. -/
def afterNodes (opened : Nat) : List Event → Option (List Event)
  | [] => none
  | e :: rest =>
    if e.kind.openAfter opened = 0 then some rest else afterNodes (e.kind.openAfter opened) rest

/-- What follows the node that begins with the first event, if it is there to its end. -/
def afterNode (es : List Event) : Option (List Event) := afterNodes 0 es

theorem length_lt_of_afterNodes {opened : Nat} {es rest : List Event} (h : afterNodes opened es = some rest) :
    rest.length < es.length := by
  induction es generalizing opened with
  | nil => simp [afterNodes] at h
  | cons e es ih =>
    simp only [afterNodes] at h
    split at h
    · cases h
      exact Nat.lt_succ_self _
    · exact Nat.lt_succ_of_lt (ih h)

theorem length_lt_of_afterNode {es rest : List Event} (h : afterNode es = some rest) :
    rest.length < es.length :=
  length_lt_of_afterNodes h

end Patchbay.Yaml
