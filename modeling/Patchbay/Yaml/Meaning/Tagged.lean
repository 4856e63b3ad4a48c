import Patchbay.Yaml.Meaning
/-!
# Tags that fix what a scalar means

A few tags say what a scalar is, whether it is quoted or not. Its text has to be a spelling of that.
-/

namespace Patchbay.Yaml

/-- The tags that say what a scalar is. -/
inductive ScalarTag where
  | null
  | boolean
  | integer
  | real
  deriving DecidableEq, Repr

namespace ScalarTag

/-- The tag in full. -/
def text : ScalarTag → String
  | null => "tag:yaml.org,2002:null"
  | boolean => "tag:yaml.org,2002:bool"
  | integer => "tag:yaml.org,2002:int"
  | real => "tag:yaml.org,2002:float"

/-- What the text has to spell, in words. -/
def expected : ScalarTag → String
  | null => "null"
  | boolean => "a boolean"
  | integer => "an integer"
  | real => "a float"

/-- The one of these tags that a text is. -/
def ofText? (s : String) : Option ScalarTag := [null, boolean, integer, real].find? (·.text = s)

/-- What a text means under a tag, if it is a spelling of that. -/
def read? (t : ScalarTag) (cs : List Char) : Option Meaning :=
  match t with
  | null => if Meaning.isNull cs then some .null else none
  | boolean => (Meaning.boolean? cs).map .boolean
  | integer => (Meaning.integer? cs).map .integer
  | real => (Meaning.real? cs).map .real

theorem ofText?_text (t : ScalarTag) : ofText? t.text = some t := by cases t <;> rfl

end ScalarTag
end Patchbay.Yaml
