/-!
# Values to be written

What the program writes: nothing, whole numbers, texts, and mappings whose keys stand in a fixed order.
-/

namespace Patchbay.Yaml

/-- A value to be written. -/
inductive Value where
  | null
  | number (n : Nat)
  | text (s : String)
  | mapping (entries : List (String × Value))
  deriving Repr, Inhabited

end Patchbay.Yaml
