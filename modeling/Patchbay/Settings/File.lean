import Patchbay.Files.Tree
import Patchbay.Settings.Fields
import Patchbay.Text.Blank
import Patchbay.Text.Utf8
import Patchbay.Yaml.Value.Writer
/-!
# Settings in files

`load` reads settings from a file and says what is wrong with it, `loadOr` falls back to the
default settings instead. `save` writes next to the file and then moves what it wrote into place, so
that nobody reads half a file. In which `Language` the files are is up to the settings; it is `Language.yaml`
unless they say otherwise.
-/

namespace Patchbay

open Files Net Yaml

/-- A language for documents. -/
structure Language where
  read : List Char → Document
  /-- Writes a mapping with these entries, or says why it cannot. -/
  write : List (String × Value) → Except String String

namespace Language

def yaml : Language := { read := Document.ofText, write := fun entries => .ok (Yaml.render entries) }

/-- The document that a text is. A text of blanks is a mapping without entries. -/
def document (language : Language) (text : List Char) : Document :=
  language.read (if text.all Text.isBlank then "\x7b\x7d".toList else text)

end Language

/-- Settings that stand in a file of their own. -/
structure Layout (α : Type) where
  toEntries : α → List (String × Value)
  decoder : Decoder α
  default : α
  language : Language := .yaml

def RouteSettings.layout : Layout RouteSettings := { toEntries, decoder, default := {} }

def VolumeSettings.layout : Layout VolumeSettings := { toEntries, decoder, default := {} }

def Settings.layout : Layout Settings := { toEntries, decoder, default := {} }

inductive LoadError where
  | unreadable (path : String) (fault : Fault)
  | malformed (path : String) (cause : DocumentError)
  | misfit (path : String) (cause : DecodeError)
  deriving DecidableEq, Repr

namespace LoadError

def message : LoadError → String
  | unreadable path _ => "Failed to read config file " ++ Text.Quoted.text path
  | malformed path _ | misfit path _ => "Failed to parse config file " ++ Text.Quoted.text path

def cause : LoadError → String
  | unreadable _ f => f.text
  | malformed _ e => e.message
  | misfit _ e => e.message

end LoadError

inductive SaveError where
  | directory (path : String) (fault : Fault)
  /-- The language has no words for the settings. -/
  | unwritable (reason : String)
  | write (path : String) (fault : Fault)
  | replace (path : String) (fault : Fault)
  deriving DecidableEq, Repr

namespace SaveError

def message : SaveError → String
  | directory path _ => "Failed to create config directory " ++ Text.Quoted.text path
  | unwritable _ => "Failed to serialize config to YAML"
  | write path _ => "Failed to write " ++ Text.Quoted.text path
  | replace path _ => "Failed to replace " ++ Text.Quoted.text path

def cause : SaveError → String
  | unwritable reason => reason
  | directory _ f | write _ f | replace _ f => f.text

end SaveError

namespace Layout

variable {α : Type}

/-- Reads settings from a document. What does not fit is told before what is wrong with the document behind
it. -/
def decode (l : Layout α) (path : String) (d : Document) : Except LoadError α :=
  match l.decoder d [] d.events, d.failure with
  | .error .incomplete, failure => .error (.malformed path (failure.getD .endsEarly))
  | .error e, _ => .error (.misfit path e)
  | .ok _, some failure => .error (.malformed path failure)
  | .ok a, none => .ok a

/-- Reads settings from a text. -/
def parse (l : Layout α) (path : String) (text : List Char) : Except LoadError α :=
  l.decode path (l.language.document text)

/-- Reads settings from a file that must be there. -/
def load (l : Layout α) (t : Tree) (path : String) : Except LoadError α :=
  match t.read path with
  | .error f => .error (.unreadable path f)
  | .ok contents =>
    match Text.Utf8.decode? contents with
    | none => .error (.unreadable path (.worded .invalidData "stream did not contain valid UTF-8"))
    | some text => l.parse path text

/-- Reads settings from a file, or falls back to the default ones. -/
def loadOr (l : Layout α) (t : Tree) (path : String) : α :=
  match l.load t path with
  | .ok a => a
  | .error _ => l.default

/-- What is written first, to be moved into place. -/
def draftPath (path : String) : String := Path.withExtension path "yaml.tmp"

def render (l : Layout α) (a : α) : Except String String := l.language.write (l.toEntries a)

/-- What is written of settings. -/
def written (l : Layout α) (a : α) : Except String Wire.Bytes := (l.render a).map Text.Utf8.ofString

/-- Makes the directory of a path if need be. -/
def makeRoom (t : Tree) (path : String) : Except SaveError Unit × Tree :=
  match Path.parent? path with
  | none => (.ok (), t)
  | some above =>
    match t.makeDirectories above with
    | (.ok _, t) => (.ok (), t)
    | (.error f, t) => (.error (.directory above f), t)

/-- Writes a draft of settings and moves it into place. -/
def putInPlace (l : Layout α) (t : Tree) (path : String) (a : α) : Except SaveError Unit × Tree :=
  let draft := draftPath path
  match l.written a with
  | .error reason => (.error (.unwritable reason), t)
  | .ok contents =>
    match t.write draft contents with
    | .error f => (.error (.write draft f), t)
    | .ok t =>
      match t.rename draft path with
      | .error f => (.error (.replace path f), t)
      | .ok t => (.ok (), t)

/-- Writes settings to a file, in a directory that is made if need be. -/
def save (l : Layout α) (t : Tree) (path : String) (a : α) : Except SaveError Unit × Tree :=
  match makeRoom t path with
  | (.error e, t) => (.error e, t)
  | (.ok _, t) => l.putInPlace t path a

end Layout
end Patchbay
