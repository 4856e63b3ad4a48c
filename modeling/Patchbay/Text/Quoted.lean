import Patchbay.Text.Printable
/-!
# Quoted text

Diagnostics show a text or a path between double quotes. Quotes and backslashes get a backslash, the
usual controls their letter, and what does not show its code point in braces.
-/

namespace Patchbay.Text.Quoted

/-- Lower-case hexadecimal digits of a number, without leading zeros. -/
def hex (n : Nat) : String := String.ofList (Nat.toDigits 16 n)

/-- One character between the quotes. -/
def escape (c : Char) : String :=
  match c with
  | '\x00' => "\\0"
  | '\t' => "\\t"
  | '\r' => "\\r"
  | '\n' => "\\n"
  | '"' => "\\\""
  | '\\' => "\\\\"
  | c => if isShown c then String.singleton c else "\\u\x7b" ++ hex c.toNat ++ "\x7d"

/-- A text in quotes. -/
def text (s : String) : String := "\"" ++ String.join (s.toList.map escape) ++ "\""

end Patchbay.Text.Quoted
