/-!
# Three-valued truth

A test on a null value is neither true nor false. `and` takes the worse of two values and `or` the
better one; a list is taken together from the left or the right alike. A row is selected only when
the value is `yes`, so both ways of taking a list together are characterised at that value.
-/

namespace FilterQuery

/-- What a condition says about a row. -/
inductive Truth where
  | no
  | unknown
  | yes
deriving DecidableEq

namespace Truth

/-- A truth value that is known. -/
def ofBool (b : Bool) : Truth := if b then yes else no

/-- The value is `yes`, so that a row is selected. -/
def holds : Truth → Bool
  | yes => true
  | _ => false

/-- Both hold. -/
def and : Truth → Truth → Truth
  | yes, t => t
  | no, _ => no
  | unknown, no => no
  | unknown, _ => unknown

/-- At least one holds. -/
def or : Truth → Truth → Truth
  | no, t => t
  | yes, _ => yes
  | unknown, yes => yes
  | unknown, _ => unknown

@[simp] theorem ofBool_true : ofBool true = yes := rfl

@[simp] theorem ofBool_false : ofBool false = no := rfl

@[simp] theorem ofBool_eq_yes_iff {b : Bool} : ofBool b = yes ↔ b = true := by
  cases b <;> simp

@[simp] theorem holds_iff {t : Truth} : t.holds = true ↔ t = yes := by
  cases t <;> simp [holds]

@[simp] theorem yes_and (t : Truth) : yes.and t = t := rfl

@[simp] theorem and_yes (t : Truth) : t.and yes = t := by cases t <;> rfl

@[simp] theorem no_or (t : Truth) : no.or t = t := rfl

@[simp] theorem or_no (t : Truth) : t.or no = t := by cases t <;> rfl

theorem and_assoc (a b c : Truth) : (a.and b).and c = a.and (b.and c) := by
  cases a <;> cases b <;> cases c <;> rfl

theorem or_assoc (a b c : Truth) : (a.or b).or c = a.or (b.or c) := by
  cases a <;> cases b <;> cases c <;> rfl

@[simp] theorem and_eq_yes_iff {a b : Truth} : a.and b = yes ↔ a = yes ∧ b = yes := by
  cases a <;> cases b <;> simp [and]

@[simp] theorem or_eq_yes_iff {a b : Truth} : a.or b = yes ↔ a = yes ∨ b = yes := by
  cases a <;> cases b <;> simp [or]

@[simp] theorem holds_and (a b : Truth) : (a.and b).holds = (a.holds && b.holds) := by
  cases a <;> cases b <;> rfl

/-- All of the values together. -/
def all (ts : List Truth) : Truth := ts.foldr and yes

/-- At least one of the values. -/
def any (ts : List Truth) : Truth := ts.foldr or no

@[simp] theorem all_nil : all [] = yes := rfl

@[simp] theorem all_cons (t : Truth) (ts : List Truth) : all (t :: ts) = t.and (all ts) := rfl

@[simp] theorem any_nil : any [] = no := rfl

@[simp] theorem any_cons (t : Truth) (ts : List Truth) : any (t :: ts) = t.or (any ts) := rfl

@[simp] theorem all_eq_yes_iff {ts : List Truth} : all ts = yes ↔ ∀ t ∈ ts, t = yes := by
  induction ts with
  | nil => simp
  | cons t ts ih => simp [ih]

@[simp] theorem any_eq_yes_iff {ts : List Truth} : any ts = yes ↔ yes ∈ ts := by
  induction ts with
  | nil => simp
  | cons t ts ih =>
      rw [any_cons, or_eq_yes_iff, ih, List.mem_cons, eq_comm]

end Truth

end FilterQuery
