import FilterQuery.Clause

/-!
# Conditions

Boolean conditions over columns, as they stand in a WHERE clause. `Condition.ofChain` folds the
elements of a scope, `AND` binding tighter than `OR`.
-/

namespace FilterQuery

/-- A condition on a row. -/
inductive Condition where
  /-- All conditions hold. -/
  | all (conditions : List Condition)
  /-- At least one condition holds. -/
  | any (conditions : List Condition)
  /-- `column operator value`. -/
  | compare (column : String) (operator : Operator) (value : Json)
  /-- The column is, or is not, null. -/
  | nullness (column : String) (isNull : Bool)
  /-- The column is, or is not, one of the values. -/
  | membership (column : String) (values : List Json) (negated : Bool)
  /-- The column is, or is not, between two values. -/
  | range (column : String) (lower upper : Json) (negated : Bool)
  /-- Some row of the table meets the correlation and the condition. -/
  | existsRow (table correlation : String) (condition : Condition)
  /-- Always true. -/
  | always
  /-- Always false. -/
  | never
deriving Inhabited

namespace Condition

/-- Membership in a list of values; nothing is a member of the empty list. -/
def isIn (column : String) (values : List Json) : Condition :=
  if values.isEmpty then never else membership column values false

/-- No membership in a list of values; nothing is a member of the empty list. -/
def isNotIn (column : String) (values : List Json) : Condition :=
  if values.isEmpty then always else membership column values true

/-- All of the given conditions, a single one being itself. -/
def conjunction : List Condition → Condition
  | [c] => c
  | cs => all cs

/-- Splits a scope into its runs of `and`: a run ends where an element attaches with `or`. How the
first element attaches does not matter. -/
def runs : List (Connective × Condition) → List (List Condition)
  | [] => []
  | (_, c) :: rest =>
    match rest, runs rest with
    | (.and, _) :: _, run :: others => (c :: run) :: others
    | _, others => [c] :: others

/-- The condition of a scope, none if the scope is empty. -/
def ofChain (chain : List (Connective × Condition)) : Option Condition :=
  match (runs chain).map conjunction with
  | [] => none
  | [c] => some c
  | cs => some (any cs)

@[simp] theorem ofChain_nil : ofChain [] = none := rfl

@[simp] theorem ofChain_singleton (r : Connective) (c : Condition) :
    ofChain [(r, c)] = some c := rfl

theorem flatten_runs (chain : List (Connective × Condition)) :
    (runs chain).flatten = chain.map (·.2) := by
  induction chain with
  | nil => rfl
  | cons head rest ih =>
    simp only [runs, List.map_cons]
    split
    · next h => simpa [h] using ih
    · simpa using ih

mutual

/-- The condition is made of nothing but `all` and `any`. -/
def isEmpty : Condition → Bool
  | all cs | any cs => areEmpty cs
  | _ => false

/-- Every one of the conditions is empty. -/
def areEmpty : List Condition → Bool
  | [] => true
  | c :: rest => isEmpty c && areEmpty rest

end

mutual

/-- Two conditions are equal node by node. -/
protected def beq : Condition → Condition → Bool
  | all cs, all ds | any cs, any ds => beqAll cs ds
  | compare c o v, compare c' o' v' => c == c' && o == o' && v == v'
  | nullness c b, nullness c' b' => c == c' && b == b'
  | membership c vs b, membership c' vs' b' => c == c' && vs == vs' && b == b'
  | range c l u b, range c' l' u' b' => c == c' && l == l' && u == u' && b == b'
  | existsRow t r c, existsRow t' r' c' => t == t' && r == r' && Condition.beq c c'
  | always, always | never, never => true
  | _, _ => false

/-- Two lists of conditions are equal one by one. -/
def beqAll : List Condition → List Condition → Bool
  | [], [] => true
  | c :: cs, d :: ds => Condition.beq c d && beqAll cs ds
  | _, _ => false

end

instance : BEq Condition := ⟨Condition.beq⟩

end Condition

end FilterQuery
