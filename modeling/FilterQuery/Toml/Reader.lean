import FilterQuery.Toml.Scalar
import FilterQuery.Toml.Token

/-!
# Reading TOML documents

A document is a sequence of lines: entries and headers. Entries go into the table of the last
header. At most 80 arrays and inline tables may be open at a time. Main definition: `Toml.read?`.

## Implementation notes

The functions that read a value take a number of steps which the length of the text bounds.
-/

namespace FilterQuery.Toml

/-- The most arrays and inline tables that may be open at a time. -/
def maxDepth : Nat := 80

/-- Drops blanks. -/
def dropBlank : List Token → List Token
  | .blank _ :: ts => ts
  | ts => ts

/-- Drops blanks, comments and line ends. -/
def dropSpace : List Token → List Token
  | .blank _ :: ts => dropSpace ts
  | .comment :: ts => dropSpace ts
  | .lineEnd :: ts => dropSpace ts
  | ts => ts

/-- A character of a bare key. -/
def isKeyChar (c : Char) : Bool := c.isAlphanum || c == '_' || c == '-'

/-- Reads one part of a key. -/
def keyPart? : List Token → Option (String × List Token)
  | .word cs :: ts => if cs.all isKeyChar then some (String.ofList cs, ts) else none
  | .string cs :: ts => some (String.ofList cs, ts)
  | _ => none

/-- Reads a key: its parts with dots between them, and the rest behind blanks. -/
def key? (fuel : Nat) (ts : List Token) : Option (List String × List Token) :=
  match fuel with
  | 0 => none
  | fuel + 1 => do
    let (part, rest) ← keyPart? (dropBlank ts)
    match dropBlank rest with
    | .dot :: rest => do
      let (parts, rest) ← key? fuel rest
      return (part :: parts, rest)
    | rest => return ([part], rest)

/-- The path and the last part of a key. -/
def splitKey? (parts : List String) : Option (List String × String) :=
  parts.getLast?.map fun last => (parts.dropLast, last)

/-- The characters of words and dots that stand together, and the rest. -/
def spanWords : List Token → List Char × List Token
  | .word cs :: ts => (cs ++ (spanWords ts).1, (spanWords ts).2)
  | .dot :: ts => ('.' :: (spanWords ts).1, (spanWords ts).2)
  | ts => ([], ts)

/-- Reads a bare value. A single space may stand between a day and its time. -/
def bare? (ts : List Token) : Option (Toml × List Token) :=
  let (cs, rest) := spanWords ts
  match rest with
  | .blank [' '] :: more =>
    let (time, after) := spanWords more
    if dropDay? cs = some [] ∧ time ≠ [] then
      (scalar? (cs ++ ' ' :: time)).map (·, after)
    else (scalar? cs).map (·, rest)
  | _ => (scalar? cs).map (·, rest)

mutual

/-- Reads a value inside `depth` open arrays and inline tables. -/
def value? (fuel depth : Nat) (ts : List Token) : Option (Toml × List Token) :=
  match fuel with
  | 0 => none
  | fuel + 1 =>
    match ts with
    | .string cs :: rest => some (.string (String.ofList cs), rest)
    | .multiLine cs :: rest => some (.string (String.ofList cs), rest)
    | .openBracket :: rest => if depth < maxDepth then elements? fuel (depth + 1) [] rest else none
    | .openBrace :: rest => if depth < maxDepth then entries? fuel (depth + 1) [] rest else none
    | ts => bare? ts

/-- Reads the elements of an array and its closing bracket. -/
def elements? (fuel depth : Nat) (done : List Toml) (ts : List Token) :
    Option (Toml × List Token) :=
  match fuel with
  | 0 => none
  | fuel + 1 =>
    match dropSpace ts with
    | .closeBracket :: rest => some (.array done.reverse, rest)
    | start => do
      let (v, rest) ← value? fuel depth start
      match dropSpace rest with
      | .comma :: rest => elements? fuel depth (v :: done) rest
      | .closeBracket :: rest => some (.array (v :: done).reverse, rest)
      | _ => none

/-- Reads the entries of an inline table and its closing brace. -/
def entries? (fuel depth : Nat) (done : Entries) (ts : List Token) :
    Option (Toml × List Token) :=
  match fuel with
  | 0 => none
  | fuel + 1 =>
    match dropSpace ts with
    | .closeBrace :: rest => some (.table .inline done, rest)
    | start => do
      let (parts, rest) ← key? fuel start
      let (path, last) ← splitKey? parts
      match rest with
      | .equals :: rest => do
        let (v, rest) ← value? fuel depth (dropBlank rest)
        let done ← done.addDotted? last v path
        match dropSpace rest with
        | .comma :: rest => entries? fuel depth done rest
        | .closeBrace :: rest => some (.table .inline done, rest)
        | _ => none
      | _ => none

end

/-- The document read so far, and the path of the last header. -/
structure Draft where
  root : Entries
  current : List String

/-- The rest behind the end of a line. -/
def endLine? (ts : List Token) : Option (List Token) :=
  match dropBlank ts with
  | .comment :: .lineEnd :: ts => some ts
  | .lineEnd :: ts => some ts
  | [.comment] => some []
  | [] => some []
  | _ => none

/-- Reads one line that is not empty: a header of a table, of an element of an array, or an entry.
-/
def line? (fuel : Nat) (draft : Draft) (ts : List Token) : Option (Draft × List Token) := do
  match ts with
  | .openBracket :: .openBracket :: ts =>
    let (parts, rest) ← key? fuel ts
    let (path, last) ← splitKey? parts
    match rest with
    | .closeBracket :: .closeBracket :: rest =>
      return (⟨← draft.root.openElement? path last, parts⟩, ← endLine? rest)
    | _ => none
  | .openBracket :: ts =>
    let (parts, rest) ← key? fuel ts
    let (path, last) ← splitKey? parts
    match rest with
    | .closeBracket :: rest =>
      return (⟨← draft.root.openTable? path last, parts⟩, ← endLine? rest)
    | _ => none
  | ts =>
    let (parts, rest) ← key? fuel ts
    let (path, last) ← splitKey? parts
    match rest with
    | .equals :: rest =>
      let (v, rest) ← value? fuel 0 (dropBlank rest)
      let root ← draft.root.modify (Entries.addDotted? last v path) draft.current
      return (⟨root, draft.current⟩, ← endLine? rest)
    | _ => none

/-- Reads the lines of a document. -/
def lines? (size fuel : Nat) (draft : Draft) (ts : List Token) : Option Entries :=
  match dropSpace ts with
  | [] => some draft.root
  | ts =>
    match fuel with
    | 0 => none
    | fuel + 1 => do
      let (draft, rest) ← line? size draft ts
      lines? size fuel draft rest

/-- The top table of the document that a text spells, if it is TOML. -/
def read? (s : String) : Option Entries := do
  let ts ← Token.ofText? s
  lines? (ts.length + 1) (ts.length + 1) ⟨[], []⟩ ts

end FilterQuery.Toml
