import FilterQuery.Error

/-!
# SQL identifiers

An identifier is one or more parts joined by dots. A bare part starts with a letter or underscore
and goes on with letters, digits, underscores and dollar signs, all ASCII. A quoted part stands in
double quotes, may hold any character but NUL, is not empty, and writes a quote inside twice.
`Identifier.parse` reads exactly the texts that `Identifier.sql` writes.
-/

namespace FilterQuery

/-- One part of an identifier. -/
inductive Identifier.Part where
  | bare (name : String)
  | quoted (name : String)
deriving DecidableEq

/-- A possibly qualified SQL name. -/
structure Identifier where
  parts : List Identifier.Part
deriving DecidableEq

namespace Identifier

/-- A character that a bare part may start with. -/
def isStart (c : Char) : Bool := c == '_' || c.isAlpha

/-- A character that a bare part may go on with. -/
def isInner (c : Char) : Bool := c == '_' || c == '$' || c.isAlphanum

namespace Part

/-- Characters with every quote written twice. -/
def doubled : List Char → List Char
  | [] => []
  | c :: cs => if c = '"' then '"' :: '"' :: doubled cs else c :: doubled cs

/-- A part as it stands in SQL text. -/
def chars : Part → List Char
  | bare name => name.toList
  | quoted name => '"' :: (doubled name.toList ++ ['"'])

/-- Reads a quoted name behind its opening quote: the name and what follows the closing quote. -/
def undouble? : List Char → Option (List Char × List Char)
  | [] => none
  | '"' :: '"' :: cs => (undouble? cs).map fun (name, rest) => ('"' :: name, rest)
  | c :: cs =>
    if c = '"' then some ([], cs) else (undouble? cs).map fun (name, rest) => (c :: name, rest)

/-- Reads a quoted part behind its opening quote. -/
def readQuoted (cs : List Char) : Except IdentifierProblem (Part × List Char) :=
  match undouble? cs with
  | none => .error .unclosedQuote
  | some ([], _) => .error .emptyQuoted
  | some (name, rest) => .ok (quoted (String.ofList name), rest)

/-- Reads a bare part, which reaches up to the next dot. -/
def readBare (cs : List Char) : Except IdentifierProblem (Part × List Char) :=
  let name := cs.takeWhile (· != '.')
  match name with
  | [] => .error .emptySegment
  | c :: inner =>
    if !isStart c then .error (.badStart c)
    else match inner.find? (!isInner ·) with
      | some bad => .error (.badCharacter bad)
      | none => .ok (bare (String.ofList name), cs.dropWhile (· != '.'))

/-- Reads the part at the front of a text. -/
def read : List Char → Except IdentifierProblem (Part × List Char)
  | '"' :: cs => readQuoted cs
  | cs => readBare cs

end Part

/-- Reads the parts of a text, the whole of which is `whole`. Every part uses up at least one
character, so as many steps as there are characters are enough. -/
def readParts (whole : String) : Nat → List Char → Except IdentifierProblem (List Part)
  | 0, _ => .error .emptySegment
  | fuel + 1, cs => do
    let (part, rest) ← Part.read cs
    match rest with
    | [] => return [part]
    | ['.'] => throw .trailingDot
    | '.' :: next => return part :: (← readParts whole fuel next)
    | _ => throw (.missingDot whole)

/-- Reads an identifier, or says why the text is none. -/
def read (s : String) : Except IdentifierProblem Identifier :=
  if s.isEmpty then .error .empty
  else if s.toList.contains '\x00' then .error .nul
  else (readParts s (s.toList.length + 1) s.toList).map (⟨·⟩)

/-- Reads an identifier. -/
def parse (s : String) : Except Error Identifier := (read s).mapError Error.identifier

/-- The identifier of a column of a table, each of the two read by itself. -/
def qualified (table column : String) : Except Error Identifier := do
  let t ← parse table
  let c ← parse column
  return ⟨t.parts ++ c.parts⟩

/-- The characters of parts joined by dots. -/
def joinedChars : List Part → List Char
  | [] => []
  | [part] => part.chars
  | part :: parts => part.chars ++ '.' :: joinedChars parts

/-- An identifier in SQL text. -/
def sql (i : Identifier) : String := String.ofList (joinedChars i.parts)

end Identifier

end FilterQuery
