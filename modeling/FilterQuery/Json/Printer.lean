import FilterQuery.Json.Basic
import FilterQuery.Text.Escaped

/-!
# Compact JSON text

No spaces, members in the order of the tree. A string escapes quotes, backslashes and controls
below U+0020; everything else is written as it is.
-/

namespace FilterQuery.Json

/-- A base-16 digit in lower case. -/
def hexDigit (n : Nat) : Char := Nat.digitChar n

/-- A character inside a JSON string. -/
def escapeChar (c : Char) : List Char :=
  match c with
  | '"' => ['\\', '"']
  | '\\' => ['\\', '\\']
  | '\x08' => ['\\', 'b']
  | '\x0c' => ['\\', 'f']
  | '\n' => ['\\', 'n']
  | '\r' => ['\\', 'r']
  | '\t' => ['\\', 't']
  | c =>
    if c.toNat < 0x20 then ['\\', 'u', '0', '0', hexDigit (c.toNat / 16), hexDigit (c.toNat % 16)]
    else [c]

/-- A JSON string with its quotes. -/
def quote (s : String) : String :=
  "\"" ++ String.ofList (s.toList.flatMap escapeChar) ++ "\""

/-- A number as it stands in a document. -/
def Number.text : Number → String
  | .integer value _ => Text.ofInt value
  | .double value => value.text

mutual

/-- A document as compact text. -/
def text : Json → String
  | null => "null"
  | boolean true => "true"
  | boolean false => "false"
  | number n => n.text
  | string s => quote s
  | array elements => "[" ++ ",".intercalate (elementTexts elements) ++ "]"
  | object members => "\x7b" ++ ",".intercalate (memberTexts members) ++ "\x7d"

/-- The texts of elements. -/
def elementTexts : List Json → List String
  | [] => []
  | j :: rest => text j :: elementTexts rest

/-- The texts of members. -/
def memberTexts : List (String × Json) → List String
  | [] => []
  | (k, v) :: rest => (quote k ++ ":" ++ text v) :: memberTexts rest

end

mutual

/-- A document as an outline that names the kind of each part. -/
def outline : Json → String
  | null => "Null"
  | boolean true => "Bool(true)"
  | boolean false => "Bool(false)"
  | number n => "Number(" ++ n.text ++ ")"
  | string s => "String(" ++ Text.quoted s ++ ")"
  | array elements => "Array [" ++ ", ".intercalate (elementOutlines elements) ++ "]"
  | object members => "Object \x7b" ++ ", ".intercalate (memberOutlines members) ++ "\x7d"

/-- The outlines of elements. -/
def elementOutlines : List Json → List String
  | [] => []
  | j :: rest => outline j :: elementOutlines rest

/-- The outlines of members. -/
def memberOutlines : List (String × Json) → List String
  | [] => []
  | (k, v) :: rest => (Text.quoted k ++ ": " ++ outline v) :: memberOutlines rest

end

end FilterQuery.Json
