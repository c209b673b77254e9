import FilterQuery.Number.Double

/-!
# JSON documents

One tree serves for documents and for values. A document keeps the members of its objects in the
order and number in which they were written; a value has them sorted by key, each key once.
`Json.normalize` turns the one into the other: of members with the same key the last wins.

## Implementation notes

Keys are compared by code points, which is the order of their UTF-8 bytes.
-/

namespace FilterQuery

/-- A JSON number: an integer that fits 64 bits, signed or unsigned, or a 64-bit float. -/
inductive Json.Number where
  | integer (value : Int) (fits : -0x8000000000000000 ≤ value ∧ value < 0x10000000000000000)
  | double (value : Number.Double)
deriving DecidableEq

/-- A JSON document. -/
inductive Json where
  | null
  | boolean (value : Bool)
  | number (value : Json.Number)
  | string (value : String)
  | array (elements : List Json)
  | object (members : List (String × Json))
deriving Inhabited

namespace Json

/-- Integers are equal as integers and floats as floats; an integer never equals a float. -/
protected def Number.beq : Number → Number → Bool
  | .integer a _, .integer b _ => a == b
  | .double a, .double b => a == b
  | _, _ => false

instance : BEq Number := ⟨Number.beq⟩

/-- The number is an integer below `2 ^ 63`, so that it fits 64 bits with a sign. -/
def Number.int64? : Number → Option Int
  | .integer value _ => if value < 0x8000000000000000 then some value else none
  | .double _ => none

/-- The 64-bit float nearest to the number. -/
def Number.toBinary : Number → FilterQuery.Number.Binary .double
  | .integer value _ => ⟨value < 0, FilterQuery.Number.Format.double.nearest value.natAbs 1⟩
  | .double value => value.toBinary

mutual

/-- Two documents are equal member by member; floats are compared as numbers. -/
protected def beq : Json → Json → Bool
  | null, null => true
  | boolean a, boolean b => a == b
  | number a, number b => a == b
  | string a, string b => a == b
  | array as, array bs => beqElements as bs
  | object as, object bs => beqMembers as bs
  | _, _ => false

/-- Equality of lists of elements. -/
def beqElements : List Json → List Json → Bool
  | [], [] => true
  | a :: as, b :: bs => Json.beq a b && beqElements as bs
  | _, _ => false

/-- Equality of lists of members. -/
def beqMembers : List (String × Json) → List (String × Json) → Bool
  | [], [] => true
  | (k, a) :: as, (l, b) :: bs => k == l && Json.beq a b && beqMembers as bs
  | _, _ => false

end

instance : BEq Json := ⟨Json.beq⟩

/-- The document is `null`. -/
def isNull : Json → Bool
  | null => true
  | _ => false

@[simp] theorem isNull_iff {j : Json} : j.isNull = true ↔ j = null := by
  cases j <;> simp [isNull]

/-- The elements of an array. -/
def elements? : Json → Option (List Json)
  | array elements => some elements
  | _ => none

/-- Puts a member into a list sorted by key, in place of a member with the same key. -/
def insertMember (key : String) (value : Json) : List (String × Json) → List (String × Json)
  | [] => [(key, value)]
  | (k, v) :: rest =>
    if key < k then (key, value) :: (k, v) :: rest
    else if key = k then (key, value) :: rest
    else (k, v) :: insertMember key value rest

mutual

/-- The value of a document: members sorted by key at every depth, the last of each key. -/
def normalize : Json → Json
  | array elements => array (normalizeElements elements)
  | object members => object (normalizeMembers [] members)
  | j => j

/-- The values of the elements. -/
def normalizeElements : List Json → List Json
  | [] => []
  | j :: rest => normalize j :: normalizeElements rest

/-- Puts the values of members, one after the other, into sorted members. -/
def normalizeMembers (sorted : List (String × Json)) :
    List (String × Json) → List (String × Json)
  | [] => sorted
  | (k, v) :: rest => normalizeMembers (insertMember k (normalize v) sorted) rest

end

/-- The value of the member with a key, `null` if there is none. -/
def member (key : String) : Json → Json
  | object members => ((members.find? (·.1 == key)).map (·.2)).getD null
  | _ => null

end Json

end FilterQuery
