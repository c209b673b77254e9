import FilterQuery.Schema.Decode

/-!
# Loading schemas from files

A directory is given as its files. `Directory.readText` reads a file by its path, `Schema.load`
decodes and validates what is in it.
-/

namespace FilterQuery

/-- A file: its name and its bytes. -/
structure File where
  name : String
  bytes : ByteArray

/-- A directory without directories of its own. -/
structure Directory where
  files : List File

namespace Directory

/-- The longest name of a file, in bytes. -/
def maxNameLength : Nat := 255

/-- The longest path, in bytes. -/
def maxPathLength : Nat := 4095

/-- Splits a path at its slashes, counting several in a row as one. -/
def segments (path : String) : List String :=
  go [] path.toList
where
  /-- Splits a text, the current segment given in reverse. -/
  go (segment : List Char) : List Char → List String
    | [] => close segment
    | '/' :: cs => close segment ++ go [] cs
    | c :: cs => go (c :: segment) cs
  /-- The segment, unless it is empty. -/
  close (segment : List Char) : List String :=
    if segment.isEmpty then [] else [String.ofList segment.reverse]

/-- Follows the segments of a path from the directory; `slash` says that a slash is behind them.
Outside the directory there is nothing but the directories that lead to it. -/
def follow (d : Directory) (slash : Bool) : List String → Except FileProblem ByteArray
  | [] => .error .isDirectory
  | "." :: rest => follow d slash rest
  | ".." :: rest => follow ⟨[]⟩ slash rest
  | name :: rest =>
    if maxNameLength < name.utf8ByteSize then .error .nameTooLong
    else match d.files.find? (·.name == name) with
      | none => .error .notFound
      | some file => if rest.isEmpty && !slash then .ok file.bytes else .error .notDirectory

/-- The bytes of the file at a path. -/
def readBytes (d : Directory) (path : String) : Except FileProblem ByteArray :=
  if path.toList.contains '\x00' then .error .nulInName
  else if path.isEmpty then .error .notFound
  else if maxPathLength < path.utf8ByteSize then .error .nameTooLong
  else
    let start := if path.toList.head? = some '/' then ⟨[]⟩ else d
    follow start (path.toList.getLast? == some '/') (segments path)

/-- The text of the file at a path. -/
def readText (d : Directory) (path : String) : Except FileProblem String := do
  let bytes ← d.readBytes path
  if h : bytes.IsValidUTF8 then return String.ofByteArray bytes h else throw .notText

end Directory

namespace Schema

/-- A problem of a schema file: what is wrong with the document itself is not told apart. -/
def fileError : Error → Error
  | .decoding _ => .decoding .notToml
  | e => e

/-- Reads, decodes and validates the schema in the file at a path. -/
def load (d : Directory) (path : String) : Except Error Schema := do
  let text ← (d.readText path).mapError fun problem => Error.config (.unreadable path problem)
  (parse text).mapError fileError

end Schema

end FilterQuery
