import FilterQuery.Proofs.Condition.Meaning
import FilterQuery.Proofs.Sql.Token

/-!
# Reading SQL conditions

A formula is what a reader of SQL makes of a condition. The reader goes over the tokens once, from
the left, and keeps what was read before: the runs of `AND` that an `OR` has ended, the run at hand,
and both of these for every parenthesis that is still open. `AND` thereby binds tighter than `OR`.
The `AND` of a `BETWEEN` belongs to the test that it stands in.

A word is a keyword when it stands where only a keyword may stand, so a column may have any name.
-/

namespace FilterQuery.Sql

/-- A condition as SQL has it: every connective joins two operands. -/
inductive Formula where
  /-- A test on a column. -/
  | test (column : String) (t : Test)
  /-- Two columns are equal. -/
  | equal (left right : String)
  | constant (value : Bool)
  | and (f g : Formula)
  | or (f g : Formula)
  /-- Some row of the table meets the formula. -/
  | existsRow (table : String) (f : Formula)

namespace Formula

universe u v

variable {ε : Type u} {ρ : Type v}

/-- What a formula says. -/
def truth (I : Interpretation ε ρ) (entity : ε) (around : List ρ) : Formula → Truth
  | test column t => I.truth entity around column t
  | equal left right => I.correlated entity around (left ++ " = " ++ right)
  | constant value => .ofBool value
  | and f g => (truth I entity around f).and (truth I entity around g)
  | or f g => (truth I entity around f).or (truth I entity around g)
  | existsRow table f =>
    .ofBool ((I.rows table).any fun row => (truth I entity (row :: around) f).holds)

/-- Reads the values of a list up to its closing parenthesis. -/
def values? : List Token → Option (List Json × List Token)
  | .value v :: .closing :: rest => some ([v], rest)
  | .value v :: .comma :: rest => (values? rest).map fun (vs, after) => (v :: vs, after)
  | _ => none

/-- Reads a test behind its keyword and behind `NOT` if that stands before it. -/
def keyword? (negated : Bool) (word : String) (ts : List Token) : Option (Test × List Token) :=
  if word = "IN" then
    match ts with
    | .opening :: rest => (values? rest).map fun (vs, after) => (.membership vs negated, after)
    | _ => none
  else if word = "BETWEEN" then
    match ts with
    | .value lower :: .name conjunction :: .value upper :: rest =>
      if conjunction = "AND" then some (.range lower upper negated, rest) else none
    | _ => none
  else if word = "LIKE" then
    match ts with
    | .value v :: rest => some (.compare (if negated then .notLike else .like) v, rest)
    | _ => none
  else none

/-- Reads a test behind `IS`. -/
def nullness? : List Token → Option (Test × List Token)
  | .name word :: rest =>
    if word = "NULL" then some (.nullness true, rest)
    else if word = "NOT" then
      match rest with
      | .name word' :: rest' => if word' = "NULL" then some (.nullness false, rest') else none
      | _ => none
    else none
  | _ => none

/-- Reads a test behind its column. -/
def test? : List Token → Option (Test × List Token)
  | .symbol s :: .value v :: rest =>
    (Operator.ofText? s).bind fun op =>
      if op.isComparison then some (.compare op v, rest) else none
  | .name word :: rest =>
    if word = "IS" then nullness? rest
    else if word = "NOT" then
      match rest with
      | .name word' :: rest' => keyword? true word' rest'
      | _ => none
    else keyword? false word rest
  | _ => none

/-- What may stand for an operand: all of one, or the start of one up to its open parenthesis. -/
inductive Operand where
  | whole (f : Formula)
  | group
  | subquery (table : String)

/-- Reads the start of a subquery behind its parenthesis. -/
def subquery? : List Token → Option (Operand × List Token)
  | .name select :: .number n :: .name source :: .name table :: .name filter :: rest =>
    if select = "SELECT" ∧ n = 1 ∧ source = "FROM" ∧ filter = "WHERE" then
      some (.subquery table, rest)
    else none
  | _ => none

/-- Reads an operand, as far as it goes without looking into parentheses. -/
def operand? : List Token → Option (Operand × List Token)
  | .opening :: rest => some (.group, rest)
  | .number m :: .symbol s :: .number n :: rest =>
    if s = "=" then some (.whole (.constant (m == n)), rest) else none
  | .name word :: .opening :: rest => if word = "EXISTS" then subquery? rest else none
  | .name left :: .symbol s :: .name right :: rest =>
    if s = "=" then some (.whole (.equal left right), rest) else none
  | .name column :: rest => (test? rest).map fun (t, after) => (.whole (.test column t), after)
  | _ => none

theorem length_lt_of_values? {ts rest : List Token} {vs : List Json}
    (h : values? ts = some (vs, rest)) : rest.length < ts.length := by
  induction ts using values?.induct generalizing vs with
  | case1 v after =>
      cases h
      simp only [List.length_cons]
      omega
  | case2 v after ih =>
      obtain ⟨⟨ws, rest'⟩, hws, heq⟩ := Option.map_eq_some_iff.mp h
      cases heq
      have hlt := ih hws
      simp only [List.length_cons]
      omega
  | case3 ts h1 h2 =>
      rw [values?] at h
      · cases h
      · exact h1
      · exact h2

theorem length_lt_of_keyword? {negated : Bool} {word : String} {ts rest : List Token} {t : Test}
    (h : keyword? negated word ts = some (t, rest)) : rest.length < ts.length := by
  unfold keyword? at h
  split at h
  · split at h
    · obtain ⟨⟨vs, after⟩, hvs, heq⟩ := Option.map_eq_some_iff.mp h
      cases heq
      have hlt := length_lt_of_values? hvs
      simp only [List.length_cons]
      omega
    · cases h
  split at h
  · split at h
    · split at h
      · cases h
        simp only [List.length_cons]
        omega
      · cases h
    · cases h
  split at h
  · split at h
    · cases h
      simp only [List.length_cons]
      omega
    · cases h
  · cases h

theorem length_lt_of_nullness? {ts rest : List Token} {t : Test}
    (h : nullness? ts = some (t, rest)) : rest.length < ts.length := by
  unfold nullness? at h
  split at h
  · split at h
    · cases h
      exact Nat.lt_succ_self _
    split at h
    · split at h
      · split at h
        · cases h
          simp only [List.length_cons]
          omega
        · cases h
      · cases h
    · cases h
  · cases h

theorem length_lt_of_test? {ts rest : List Token} {t : Test} (h : test? ts = some (t, rest)) :
    rest.length < ts.length := by
  unfold test? at h
  split at h
  · next s v after =>
    obtain ⟨op, -, hop⟩ := Option.bind_eq_some_iff.mp h
    split at hop
    · cases hop
      simp only [List.length_cons]
      omega
    · cases hop
  · next word after =>
    split at h
    · have hlt := length_lt_of_nullness? h
      simp only [List.length_cons]
      omega
    · split at h
      · split at h
        · have hlt := length_lt_of_keyword? h
          simp only [List.length_cons]
          omega
        · cases h
      · have hlt := length_lt_of_keyword? h
        simp only [List.length_cons]
        omega
  · cases h

theorem length_lt_of_subquery? {ts rest : List Token} {o : Operand}
    (h : subquery? ts = some (o, rest)) : rest.length < ts.length := by
  unfold subquery? at h
  split at h
  · split at h
    · cases h
      simp only [List.length_cons]
      omega
    · cases h
  · cases h

/-- An operand uses up a token at least. -/
theorem length_lt_of_operand? {ts rest : List Token} {o : Operand}
    (h : operand? ts = some (o, rest)) : rest.length < ts.length := by
  unfold operand? at h
  split at h
  · cases h
    simp only [List.length_cons]
    omega
  · split at h
    · cases h
      simp only [List.length_cons]
      omega
    · cases h
  · split at h
    · have hlt := length_lt_of_subquery? h
      simp only [List.length_cons]
      omega
    · cases h
  · split at h
    · cases h
      simp only [List.length_cons]
      omega
    · cases h
  · obtain ⟨⟨t, rest'⟩, ht, heq⟩ := Option.map_eq_some_iff.mp h
    cases heq
    have hlt := length_lt_of_test? ht
    simp only [List.length_cons]
    omega
  · cases h

/-- Joins a formula to what was read before it, if there is anything. -/
def joined (connective : Formula → Formula → Formula) : Option Formula → Formula → Formula
  | none, f => f
  | some g, f => connective g f

/-- An open parenthesis: the table if it belongs to a subquery, and what was read before it, the
ended runs and the run at hand. -/
structure Frame where
  table : Option String
  before : Option Formula
  run : Option Formula

/-- What a parenthesis stands for when it closes around a formula. -/
def Frame.close (frame : Frame) (f : Formula) : Formula := frame.table.elim f (existsRow · f)

mutual

/-- Reads on where an operand has to stand. -/
def expectOperand (stack : List Frame) (before run : Option Formula) (ts : List Token) :
    Option Formula :=
  match h : operand? ts with
  | none => none
  | some (.whole f, rest) =>
    have : rest.length < ts.length := length_lt_of_operand? h
    expectConnective stack before (joined and run f) rest
  | some (.group, rest) =>
    have : rest.length < ts.length := length_lt_of_operand? h
    expectOperand (⟨none, before, run⟩ :: stack) none none rest
  | some (.subquery table, rest) =>
    have : rest.length < ts.length := length_lt_of_operand? h
    expectOperand (⟨some table, before, run⟩ :: stack) none none rest
termination_by ts.length

/-- Reads on where a connective has to stand, a closing parenthesis, or the end. -/
def expectConnective (stack : List Frame) (before : Option Formula) (run : Formula) :
    List Token → Option Formula
  | [] => if stack.isEmpty then some (joined or before run) else none
  | .closing :: rest =>
    match stack with
    | [] => none
    | frame :: stack =>
      expectConnective stack frame.before
        (joined and frame.run (frame.close (joined or before run))) rest
  | .name word :: rest =>
    if word = "AND" then expectOperand stack before (some run) rest
    else if word = "OR" then expectOperand stack (some (joined or before run)) none rest
    else none
  | _ => none
termination_by ts => ts.length

end

section Equations

variable {stack : List Frame} {before run : Option Formula} {ts rest : List Token}

theorem expectOperand_whole {f : Formula} (h : operand? ts = some (.whole f, rest)) :
    expectOperand stack before run ts =
      expectConnective stack before (joined and run f) rest := by
  rw [expectOperand]
  split
  all_goals
    next h' =>
      rw [h] at h'
      cases h' <;> rfl

theorem expectOperand_group (h : operand? ts = some (.group, rest)) :
    expectOperand stack before run ts =
      expectOperand (⟨none, before, run⟩ :: stack) none none rest := by
  rw [expectOperand]
  split
  all_goals
    next h' =>
      rw [h] at h'
      cases h' <;> rfl

theorem expectOperand_subquery {table : String}
    (h : operand? ts = some (.subquery table, rest)) :
    expectOperand stack before run ts =
      expectOperand (⟨some table, before, run⟩ :: stack) none none rest := by
  rw [expectOperand]
  split
  all_goals
    next h' =>
      rw [h] at h'
      cases h' <;> rfl

@[simp] theorem expectConnective_and {f : Formula} :
    expectConnective stack before f (.name "AND" :: rest) =
      expectOperand stack before (some f) rest := by
  rw [expectConnective, if_pos rfl]

@[simp] theorem expectConnective_or {f : Formula} :
    expectConnective stack before f (.name "OR" :: rest) =
      expectOperand stack (some (joined or before f)) none rest := by
  rw [expectConnective, if_neg (by decide), if_pos rfl]

@[simp] theorem expectConnective_closing {frame : Frame} {f : Formula} :
    expectConnective (frame :: stack) before f (.closing :: rest) =
      expectConnective stack frame.before
        (joined and frame.run (frame.close (joined or before f))) rest := by
  rw [expectConnective]

end Equations

/-- Reads a condition from SQL text and the values of its placeholders. -/
def read? (params : List Json) (text : String) : Option Formula :=
  (lex params text.toList).bind (expectOperand [] none none)

end Formula

end FilterQuery.Sql
