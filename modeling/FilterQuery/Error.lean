import FilterQuery.Operator
import FilterQuery.Text.Digits
import FilterQuery.Text.Escaped

/-!
# Errors

Everything that can go wrong, as causes. The wording stands in one place: `message` of each type.
-/

namespace FilterQuery

/-- Why a text is not an identifier. -/
inductive IdentifierProblem where
  | empty
  | nul
  | trailingDot
  | missingDot (whole : String)
  | emptyQuoted
  | unclosedQuote
  | emptySegment
  | badStart (c : Char)
  | badCharacter (c : Char)
deriving DecidableEq

/-- The wording of an identifier problem. -/
def IdentifierProblem.message : IdentifierProblem → String
  | empty => "Identifier cannot be empty"
  | nul => "Identifier cannot contain NUL character"
  | trailingDot => "Trailing '.' in identifier"
  | missingDot whole => "Expected '.' between identifier parts in '" ++ whole ++ "'"
  | emptyQuoted => "Empty quoted identifier"
  | unclosedQuote => "Unclosed quoted identifier"
  | emptySegment => "Empty identifier segment"
  | badStart c => "Invalid identifier start character: '" ++ String.ofList [c] ++ "'"
  | badCharacter c => "Invalid character in identifier: '" ++ String.ofList [c] ++ "'"

/-- Why identifiers or a schema are not valid. -/
inductive ValidationProblem where
  | identifier (problem : IdentifierProblem)
  | noColumns
  | sharedTable
deriving DecidableEq

/-- The wording of a validation problem. -/
def ValidationProblem.message : ValidationProblem → String
  | identifier problem => problem.message
  | noColumns => "entity.columns cannot be empty"
  | sharedTable => "attributes.table must differ from entity.table"

/-- Why a value does not fit its operator. -/
inductive ValueProblem where
  | notComparison
  | notArray
  | notPair
deriving DecidableEq

/-- The wording of a value problem. -/
def ValueProblem.message : ValueProblem → String
  | notComparison => "not a comparison operator"
  | notArray => "expected an array"
  | notPair => "expected a [from, to] pair"

/-- The two parts that a leaf item cannot do without. -/
inductive RequiredPart where
  | field
  | value
deriving DecidableEq

/-- The key of a required part. -/
def RequiredPart.key : RequiredPart → String
  | field => "field"
  | value => "value"

/-- What was met in a document where something else belongs. -/
inductive Found where
  | null
  | boolean (value : Bool)
  | integer (value : Int)
  | floating (text : String)
  | string (value : String)
  | sequence
  | mapping
deriving DecidableEq

/-- The wording of what was met. -/
def Found.message : Found → String
  | null => "null"
  | boolean value => "boolean `" ++ (if value then "true" else "false") ++ "`"
  | integer value => "integer `" ++ Text.ofInt value ++ "`"
  | floating text => "floating point `" ++ text ++ "`"
  | string value => "string " ++ Text.quoted value
  | sequence => "sequence"
  | mapping => "map"

/-- Why a document does not decode. -/
inductive DecodeProblem where
  | notJson
  | notToml
  | missingField (name : String)
  | duplicateField (name : String)
  | unknownField (name : String) (expected : List String)
  | unknownVariant (name : String) (expected : List String)
  | unexpected (found : Found) (expected : String)
  | badIndex (index : Int) (count : Nat)
  | surplusElements (count expected : Nat)
  | surplusArray (count : Nat)
deriving DecidableEq

/-- Names in an error message: two are joined by `or`, more are listed. -/
def alternatives (names : List String) : String :=
  let marked := names.map fun name => "`" ++ name ++ "`"
  if names.length ≤ 2 then " or ".intercalate marked
  else "one of " ++ ", ".intercalate marked

/-- The wording of a decode problem. -/
def DecodeProblem.message : DecodeProblem → String
  | notJson => "not JSON"
  | notToml => "not TOML"
  | missingField name => "missing field `" ++ name ++ "`"
  | duplicateField name => "duplicate field `" ++ name ++ "`"
  | unknownField name expected =>
    "unknown field `" ++ name ++ "`, expected " ++ alternatives expected
  | unknownVariant name expected =>
    "unknown variant `" ++ name ++ "`, expected " ++ alternatives expected
  | unexpected found expected => "invalid type: " ++ found.message ++ ", expected " ++ expected
  | badIndex index count =>
    "invalid value: integer `" ++ Text.ofInt index ++ "`, expected variant index 0 <= i < " ++
      Text.ofNat count
  | surplusElements count expected =>
    "invalid length " ++ Text.ofNat count ++ ", expected " ++ Text.ofNat expected ++
      " elements in sequence"
  | surplusArray count =>
    "invalid length " ++ Text.ofNat count ++ ", expected fewer elements in array"

/-- Why a file cannot be read as text. -/
inductive FileProblem where
  | notFound
  | isDirectory
  | notDirectory
  | nameTooLong
  | nulInName
  | notText
deriving DecidableEq

/-- The wording of a file problem. -/
def FileProblem.message : FileProblem → String
  | notFound => "No such file or directory (os error 2)"
  | isDirectory => "Is a directory (os error 21)"
  | notDirectory => "Not a directory (os error 20)"
  | nameTooLong => "File name too long (os error 36)"
  | nulInName => "file name contained an unexpected NUL byte"
  | notText => "stream did not contain valid UTF-8"

/-- Why no schema or connection is available. -/
inductive ConfigProblem where
  | unreadable (path : String) (problem : FileProblem)
  | unavailable (reason : String)
deriving DecidableEq

/-- The wording of a configuration problem. -/
def ConfigProblem.message : ConfigProblem → String
  | unreadable path problem => "failed to read config file " ++ path ++ ": " ++ problem.message
  | unavailable reason => reason

/-- An error of the library. -/
inductive Error where
  | invalidOperator (text : String)
  | invalidConnective (text : String)
  | missingPart (part : RequiredPart)
  | invalidValue (operator : Operator) (problem : ValueProblem)
  | validation (problem : ValidationProblem)
  | decoding (problem : DecodeProblem)
  | config (problem : ConfigProblem)
deriving DecidableEq

namespace Error

/-- The wording of an error. -/
def message : Error → String
  | invalidOperator text => "The value " ++ text ++ " is not a valid operator."
  | invalidConnective text => "The value " ++ text ++ " is not a valid relation."
  | missingPart part =>
    "The where clause must contain both field and value properties (missing `" ++ part.key ++ "`)."
  | invalidValue operator problem =>
    "Invalid value for operator '" ++ operator.text ++ "': " ++ problem.message
  | validation problem => "Validation error: " ++ problem.message
  | decoding problem => "Serialization error: " ++ problem.message
  | config problem => "Config error: " ++ problem.message

/-- The error of a text that is no identifier. -/
abbrev identifier (problem : IdentifierProblem) : Error := validation (.identifier problem)

end Error

/-- Reads an operator. -/
def Operator.parse (s : String) : Except Error Operator := (read s).mapError .invalidOperator

/-- Reads a connective. -/
def Connective.parse (s : String) : Except Error Connective :=
  (read s).mapError .invalidConnective

end FilterQuery
