import FilterQuery.Text.EscapeTable
import FilterQuery.Text.LowerCase

/-!
# Quoted texts with visible characters only

A quoted text stands between double quotes. Quotes and backslashes are escaped, and so is every
character that has no visible form of its own, by a short escape or by its number in braces.
-/

namespace FilterQuery.Text

/-- The digits of a number in base 16, in lower case. -/
def hexDigits (n : Nat) : List Char := Nat.toDigits 16 n

/-- A character that is shown by an escape. -/
def isHidden (c : Char) : Bool :=
  if c.toNat < 0x80 then c.toNat < 0x20 || c.toNat == 0x7F else inRanges hiddenRanges c.toNat

/-- A character as it stands in a quoted text. -/
def escapedChar (c : Char) : List Char :=
  match c with
  | '\x00' => ['\\', '0']
  | '\t' => ['\\', 't']
  | '\n' => ['\\', 'n']
  | '\r' => ['\\', 'r']
  | '"' => ['\\', '"']
  | '\\' => ['\\', '\\']
  | c => if isHidden c then ['\\', 'u', '\x7b'] ++ hexDigits c.toNat ++ ['\x7d'] else [c]

/-- A text in double quotes. -/
def quoted (s : String) : String :=
  "\"" ++ String.ofList (s.toList.flatMap escapedChar) ++ "\""

example : quoted "a\"b\n\u0301" = "\"a\\\"b\\n\\u\x7b301\x7d\"" := by decide +kernel

end FilterQuery.Text
