import FilterQuery.Json.Token

/-!
# Tokens of TOML documents

Main definition: `Token.ofText?`, the tokens of a whole text. White space and line ends are tokens,
since some places allow them and others do not. A bare word is a run of characters that no other
token starts with; what it means depends on where it stands.
-/

namespace FilterQuery.Toml

/-- A mark, a word or a string. -/
inductive Token where
  | dot
  | equals
  | comma
  | openBracket
  | closeBracket
  | openBrace
  | closeBrace
  | blank (characters : List Char)
  | lineEnd
  | comment
  | word (characters : List Char)
  | string (value : List Char)
  | multiLine (value : List Char)
deriving DecidableEq

namespace Token

/-- A character that separates tokens on a line. -/
def isBlank (c : Char) : Bool := c == ' ' || c == '\t'

/-- A character that may stand in a comment or string as it is: no control but the tab. -/
def isPlain (c : Char) : Bool := c == '\t' || (0x20 ≤ c.toNat && c.toNat != 0x7F)

/-- A character that may stand in a bare word. -/
def isWord (c : Char) : Bool :=
  isPlain c && !(" \t.=,[]\x7b\x7d#\"".toList.contains c) && c.toNat != 0x27

/-- The character whose number is written by the first `count` characters in base 16, and how many
characters that took, the mark in front of them included. -/
def hexEscape? (count : Nat) (cs : List Char) : Option (Char × Nat) := do
  let digits ← (cs.take count).mapM Json.Token.hexValue?
  let n := digits.foldl (fun n d => 16 * n + d) 0
  if digits.length = count ∧ (n < 0xD800 ∨ 0xE000 ≤ n ∧ n < 0x110000) then
    some (Char.ofNat n, count + 1)
  else none

/-- The character that an escape stands for, and how many characters behind the backslash it has. -/
def escape? : List Char → Option (Char × Nat)
  | 'b' :: _ => some ('\x08', 1)
  | 't' :: _ => some ('\t', 1)
  | 'n' :: _ => some ('\n', 1)
  | 'f' :: _ => some ('\x0c', 1)
  | 'r' :: _ => some ('\r', 1)
  | 'e' :: _ => some ('\x1b', 1)
  | '"' :: _ => some ('"', 1)
  | '\\' :: _ => some ('\\', 1)
  | 'x' :: cs => hexEscape? 2 cs
  | 'u' :: cs => hexEscape? 4 cs
  | 'U' :: cs => hexEscape? 8 cs
  | _ => none

/-- Reads a string on one line behind its opening quote. -/
def basic? : List Char → Option (List Char × List Char)
  | [] => none
  | c :: cs =>
    if c = '"' then some ([], cs)
    else if c = '\\' then
      match escape? cs with
      | some (e, n) => Json.Token.push e (basic? (cs.drop n))
      | none => none
    else if isPlain c then Json.Token.push c (basic? cs)
    else none
termination_by cs => cs.length
decreasing_by all_goals (simp; try omega)

/-- Reads a string without escapes on one line behind its opening quote. -/
def literal? : List Char → Option (List Char × List Char)
  | [] => none
  | c :: cs =>
    if c.toNat = 0x27 then some ([], cs)
    else if isPlain c then Json.Token.push c (literal? cs)
    else none

/-- The line ends behind blanks. -/
def endsLine (cs : List Char) : Bool :=
  match cs.dropWhile isBlank with
  | '\n' :: _ => true
  | '\r' :: '\n' :: _ => true
  | _ => false

/-- Closes a string of several lines that ends in three quotes: up to two quotes in front of them
are part of it. `none` if the text does not start with three quotes. -/
def closing? (quote : Char) (cs : List Char) : Option (List Char × List Char) :=
  let count := min 5 (cs.takeWhile (· == quote)).length
  if count < 3 then none else some (List.replicate (count - 3) quote, cs.drop count)

/-- Reads a string of several lines behind its opening quotes. A backslash at the end of a line
drops all blanks and line ends up to the next character; `skipping` says that this is going on. -/
def multiBasic? (skipping : Bool) : List Char → Option (List Char × List Char)
  | [] => none
  | c :: cs =>
    if c = '\n' then
      if skipping then multiBasic? true cs else Json.Token.push '\n' (multiBasic? false cs)
    else if c = '\r' then if cs.head? = some '\n' then multiBasic? skipping cs else none
    else if skipping && isBlank c then multiBasic? true cs
    else match closing? '"' (c :: cs) with
      | some closed => some closed
      | none =>
        if c = '\\' then
          if endsLine cs then multiBasic? true cs
          else match escape? cs with
            | some (e, n) => Json.Token.push e (multiBasic? false (cs.drop n))
            | none => none
        else if isPlain c then Json.Token.push c (multiBasic? false cs)
        else none
termination_by cs => cs.length
decreasing_by all_goals (simp; try omega)

/-- Reads a string of several lines without escapes behind its opening quotes. -/
def multiLiteral? : List Char → Option (List Char × List Char)
  | [] => none
  | c :: cs =>
    if c = '\n' then Json.Token.push '\n' (multiLiteral? cs)
    else if c = '\r' then if cs.head? = some '\n' then multiLiteral? cs else none
    else match closing? (Char.ofNat 0x27) (c :: cs) with
      | some closed => some closed
      | none => if isPlain c then Json.Token.push c (multiLiteral? cs) else none

/-- Drops the line end that directly follows the opening quotes. -/
def dropLineEnd : List Char → List Char
  | '\n' :: cs => cs
  | '\r' :: '\n' :: cs => cs
  | cs => cs

/-- Reads the string that starts with a quote. -/
def quoted? (quote : Char) (cs : List Char) : Option (Token × List Char) :=
  let several := (cs.take 2).length = 2 ∧ (cs.take 2).all (· == quote)
  if quote = '"' then
    if several then
      (multiBasic? false (dropLineEnd (cs.drop 2))).map fun (text, rest) => (multiLine text, rest)
    else (basic? cs).map fun (text, rest) => (string text, rest)
  else if several then
    (multiLiteral? (dropLineEnd (cs.drop 2))).map fun (text, rest) => (multiLine text, rest)
  else (literal? cs).map fun (text, rest) => (string text, rest)

/-- Reads the token that starts with the given character. -/
def first? (c : Char) (cs : List Char) : Option (Token × List Char) :=
  if c = '.' then some (dot, cs)
  else if c = '=' then some (equals, cs)
  else if c = ',' then some (comma, cs)
  else if c = '[' then some (openBracket, cs)
  else if c = ']' then some (closeBracket, cs)
  else if c = '\x7b' then some (openBrace, cs)
  else if c = '\x7d' then some (closeBrace, cs)
  else if c = '\n' then some (lineEnd, cs)
  else if c = '\r' then if cs.head? = some '\n' then some (lineEnd, cs.drop 1) else none
  else if isBlank c then
    some (blank (c :: cs.takeWhile isBlank), cs.dropWhile isBlank)
  else if c = '#' then some (comment, cs.dropWhile isPlain)
  else if c = '"' || c.toNat = 0x27 then quoted? c cs
  else if isWord c then some (word (c :: cs.takeWhile isWord), cs.dropWhile isWord)
  else none

/-- The tokens of a text, in at most `fuel` steps. -/
def ofChars? (fuel : Nat) (cs : List Char) : Option (List Token) :=
  match fuel, cs with
  | _, [] => some []
  | 0, _ :: _ => none
  | fuel + 1, c :: cs =>
    match first? c cs with
    | some (token, rest) => (ofChars? fuel rest).map (token :: ·)
    | none => none

/-- The tokens of a text, a byte order mark in front of it dropped. Every step uses up at least one
character, so as many steps as there are characters are enough. -/
def ofText? (s : String) : Option (List Token) :=
  let cs := match s.toList with
    | '\ufeff' :: rest => rest
    | cs => cs
  ofChars? cs.length cs

end Token

end FilterQuery.Toml
