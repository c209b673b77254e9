import FilterQuery.Json.Number

/-!
# Tokens of JSON texts

Main definition: `Token.ofText?`, the tokens of a whole text, white space dropped. Every step uses
up at least one character, so as many steps as there are characters are enough.
-/

namespace FilterQuery.Json

/-- A bracket, a mark or a value without parts. -/
inductive Token where
  | openArray
  | closeArray
  | openObject
  | closeObject
  | comma
  | colon
  | string (value : String)
  | scalar (value : Json)

namespace Token

/-- The number that a base-16 digit stands for. -/
def hexValue? (c : Char) : Option Nat :=
  if c.isDigit then some (c.toNat - '0'.toNat)
  else if 'a' ≤ c ∧ c ≤ 'f' then some (c.toNat - 'a'.toNat + 10)
  else if 'A' ≤ c ∧ c ≤ 'F' then some (c.toNat - 'A'.toNat + 10)
  else none

/-- The number written by four base-16 digits. -/
def hexValue4? (a b c d : Char) : Option Nat := do
  return ((← hexValue? a) * 16 + (← hexValue? b)) * 256 + (← hexValue? c) * 16 + (← hexValue? d)

/-- The character that a one-letter escape stands for. -/
def shortEscape? : Char → Option Char
  | '"' => some '"'
  | '\\' => some '\\'
  | '/' => some '/'
  | 'b' => some '\x08'
  | 'f' => some '\x0c'
  | 'n' => some '\n'
  | 'r' => some '\r'
  | 't' => some '\t'
  | _ => none

/-- Puts a character in front of the text read by the rest. -/
def push (c : Char) : Option (List Char × List Char) → Option (List Char × List Char)
  | some (text, rest) => some (c :: text, rest)
  | none => none

/-- Reads a string behind its opening quote: its characters and what follows its closing quote. An
escaped number above U+FFFF takes two escapes, neither of which may stand alone. -/
def string? : List Char → Option (List Char × List Char)
  | [] => none
  | '"' :: cs => some ([], cs)
  | '\\' :: 'u' :: a :: b :: c :: d :: cs =>
    match hexValue4? a b c d with
    | none => none
    | some high =>
      if high < 0xD800 ∨ 0xE000 ≤ high then push (Char.ofNat high) (string? cs)
      else if 0xDC00 ≤ high then none
      else match cs with
        | '\\' :: 'u' :: a :: b :: c :: d :: cs =>
          match hexValue4? a b c d with
          | none => none
          | some low =>
            if 0xDC00 ≤ low ∧ low < 0xE000 then
              push (Char.ofNat (0x10000 + (high - 0xD800) * 0x400 + (low - 0xDC00))) (string? cs)
            else none
        | _ => none
  | '\\' :: c :: cs =>
    match shortEscape? c with
    | some e => push e (string? cs)
    | none => none
  | c :: cs => if c.toNat < 0x20 then none else push c (string? cs)

/-- Drops a given text from the front of another. -/
def dropText? : List Char → List Char → Option (List Char)
  | [], cs => some cs
  | _ :: _, [] => none
  | t :: ts, c :: cs => if t = c then dropText? ts cs else none

/-- Reads a number whose sign has been read. -/
def number? (negative : Bool) (cs : List Char) : Option (Token × List Char) := do
  let (literal, rest) := FilterQuery.Number.Literal.span cs
  let n ← Number.ofLiteral? negative literal
  return (.scalar (.number n), rest)

/-- Reads the token that starts with the given character. -/
def first? (c : Char) (cs : List Char) : Option (Token × List Char) :=
  match c with
  | '[' => some (.openArray, cs)
  | ']' => some (.closeArray, cs)
  | '\x7b' => some (.openObject, cs)
  | '\x7d' => some (.closeObject, cs)
  | ',' => some (.comma, cs)
  | ':' => some (.colon, cs)
  | '"' => (string? cs).map fun (text, rest) => (.string (String.ofList text), rest)
  | 'n' => (dropText? ['u', 'l', 'l'] cs).map (.scalar .null, ·)
  | 't' => (dropText? ['r', 'u', 'e'] cs).map (.scalar (.boolean true), ·)
  | 'f' => (dropText? ['a', 'l', 's', 'e'] cs).map (.scalar (.boolean false), ·)
  | '-' => number? true cs
  | c => if c.isDigit then number? false (c :: cs) else none

/-- A character that may stand between tokens. -/
def isSpace (c : Char) : Bool := c == ' ' || c == '\n' || c == '\t' || c == '\r'

/-- The tokens of a text, in at most `fuel` steps. -/
def ofChars? (fuel : Nat) (cs : List Char) : Option (List Token) :=
  match fuel, cs with
  | _, [] => some []
  | 0, _ :: _ => none
  | fuel + 1, c :: cs =>
    if isSpace c then ofChars? fuel cs
    else match first? c cs with
      | some (token, rest) => (ofChars? fuel rest).map (token :: ·)
      | none => none

/-- The tokens of a text. -/
def ofText? (s : String) : Option (List Token) :=
  ofChars? s.toList.length s.toList

end Token

end FilterQuery.Json
