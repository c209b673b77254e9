import FilterQuery.Proofs.Sql.Formula

/-!
# What tokens add to what was read

Tokens are described by what reading them does, whatever stands before and after them. They may
extend the run at hand by one operand, or go on from an operand with further ones, joined by `AND`
to the same run or by `OR` to other runs. These properties compose, and a parenthesis turns tokens
that read as any number of runs into one operand.
-/

namespace FilterQuery.Sql.Formula

universe u v

variable {ε : Type u} {ρ : Type v}

/-- What the run at hand says so far. -/
def runTruth (I : Interpretation ε ρ) (entity : ε) (around : List ρ) (run : Option Formula) :
    Truth :=
  run.elim .yes (truth I entity around)

/-- What the ended runs say. -/
def beforeTruth (I : Interpretation ε ρ) (entity : ε) (around : List ρ) (before : Option Formula) :
    Truth :=
  before.elim .no (truth I entity around)

variable (I : Interpretation ε ρ) (entity : ε)

/-- In place of an operand, the tokens extend the run at hand by what `t` says. -/
def ExtendsRun (ts : List Token) (t : List ρ → Truth) : Prop :=
  ∀ stack before run rest, ∃ f,
    expectOperand stack before run (ts ++ rest) = expectConnective stack before f rest ∧
      ∀ around, f.truth I entity around = (runTruth I entity around run).and (t around)

/-- At the start of a run, the tokens add runs that say together what `t` says. -/
def AddsRuns (ts : List Token) (t : List ρ → Truth) : Prop :=
  ∀ stack before rest, ∃ before' f,
    expectOperand stack before none (ts ++ rest) = expectConnective stack before' f rest ∧
      ∀ around, (beforeTruth I entity around before').or (f.truth I entity around) =
        (beforeTruth I entity around before).or (t around)

/-- Behind an operand, the tokens extend the run at hand by what `t` says. -/
def ContinuesRun (ts : List Token) (t : List ρ → Truth) : Prop :=
  ∀ stack before f rest, ∃ g,
    expectConnective stack before f (ts ++ rest) = expectConnective stack before g rest ∧
      ∀ around, g.truth I entity around = (f.truth I entity around).and (t around)

/-- Behind an operand, the tokens add to what the runs up to here say what `t` says. -/
def ContinuesRuns (ts : List Token) (t : List ρ → Truth) : Prop :=
  ∀ stack before f rest, ∃ before' g,
    expectConnective stack before f (ts ++ rest) = expectConnective stack before' g rest ∧
      ∀ around, (beforeTruth I entity around before').or (g.truth I entity around) =
        ((beforeTruth I entity around before).or (f.truth I entity around)).or (t around)

variable {I entity}
variable {around : List ρ} {ts us : List Token} {t u : List ρ → Truth}

theorem truth_joined_and (run : Option Formula) (f : Formula) :
    (joined and run f).truth I entity around =
      (runTruth I entity around run).and (f.truth I entity around) := by
  cases run with
  | none => rfl
  | some g => rfl

theorem truth_joined_or (before : Option Formula) (f : Formula) :
    (joined or before f).truth I entity around =
      (beforeTruth I entity around before).or (f.truth I entity around) := by
  cases before with
  | none => rfl
  | some g => rfl

/-- Tokens that make one operand. -/
theorem extendsRun_of_operand? {f : Formula}
    (h : ∀ rest, operand? (ts ++ rest) = some (.whole f, rest)) :
    ExtendsRun I entity ts fun around => f.truth I entity around := by
  intro stack before run rest
  refine ⟨joined and run f, ?_, fun around => truth_joined_and run f⟩
  exact expectOperand_whole (h rest)

/-- One operand is a run by itself. -/
theorem ExtendsRun.addsRuns (h : ExtendsRun I entity ts t) : AddsRuns I entity ts t := by
  intro stack before rest
  obtain ⟨f, hread, htruth⟩ := h stack before none rest
  refine ⟨before, f, hread, ?_⟩
  intro around
  rw [htruth around]
  rfl

theorem ContinuesRun.nil : ContinuesRun I entity [] fun _ => .yes := by
  intro stack before f rest
  exact ⟨f, rfl, fun around => (Truth.and_yes _).symm⟩

theorem ContinuesRuns.nil : ContinuesRuns I entity [] fun _ => .no := by
  intro stack before f rest
  exact ⟨before, f, rfl, fun around => (Truth.or_no _).symm⟩

/-- An operand behind `AND` and what continues from it. -/
theorem ContinuesRun.and_append (h : ExtendsRun I entity ts t) (hu : ContinuesRun I entity us u) :
    ContinuesRun I entity (.name "AND" :: ts ++ us) fun around => (t around).and (u around) := by
  intro stack before f rest
  obtain ⟨g, hread, htruth⟩ := h stack before (some f) (us ++ rest)
  obtain ⟨g', hread', htruth'⟩ := hu stack before g rest
  refine ⟨g', ?_, ?_⟩
  · rw [List.cons_append, List.cons_append, expectConnective_and, List.append_assoc, hread,
      hread']
  · intro around
    rw [htruth' around, htruth around, Truth.and_assoc]
    rfl

/-- Runs behind `OR` and what continues from them. -/
theorem ContinuesRuns.or_append (h : AddsRuns I entity ts t) (hu : ContinuesRuns I entity us u) :
    ContinuesRuns I entity (.name "OR" :: ts ++ us) fun around => (t around).or (u around) := by
  intro stack before f rest
  obtain ⟨before', g, hread, htruth⟩ := h stack (some (joined or before f)) (us ++ rest)
  obtain ⟨before'', g', hread', htruth'⟩ := hu stack before' g rest
  refine ⟨before'', g', ?_, ?_⟩
  · rw [List.cons_append, List.cons_append, expectConnective_or, List.append_assoc, hread,
      hread']
  · intro around
    rw [htruth' around, htruth around, ← Truth.or_assoc, ← truth_joined_or]
    rfl

theorem ExtendsRun.append (h : ExtendsRun I entity ts t) (hu : ContinuesRun I entity us u) :
    ExtendsRun I entity (ts ++ us) fun around => (t around).and (u around) := by
  intro stack before run rest
  obtain ⟨f, hread, htruth⟩ := h stack before run (us ++ rest)
  obtain ⟨g, hread', htruth'⟩ := hu stack before f rest
  refine ⟨g, by rw [List.append_assoc, hread, hread'], ?_⟩
  intro around
  rw [htruth' around, htruth around, Truth.and_assoc]

theorem AddsRuns.append (h : AddsRuns I entity ts t) (hu : ContinuesRuns I entity us u) :
    AddsRuns I entity (ts ++ us) fun around => (t around).or (u around) := by
  intro stack before rest
  obtain ⟨before', f, hread, htruth⟩ := h stack before (us ++ rest)
  obtain ⟨before'', g, hread', htruth'⟩ := hu stack before' f rest
  refine ⟨before'', g, by rw [List.append_assoc, hread, hread'], ?_⟩
  intro around
  rw [htruth' around, htruth around, Truth.or_assoc]

/-- What a connective does to its operands: `operand` describes the tokens of one, `more` the tokens
of those behind it, each with the word before it. -/
structure Connects (word : String) (combine : Truth → Truth → Truth) (unit : Truth)
    (operand more : List Token → (List ρ → Truth) → Prop) : Prop where
  nil : more [] fun _ => unit
  behind {ts us : List Token} {t u : List ρ → Truth} : operand ts t → more us u →
    more (.name word :: ts ++ us) fun around => combine (t around) (u around)
  append {ts us : List Token} {t u : List ρ → Truth} : operand ts t → more us u →
    operand (ts ++ us) fun around => combine (t around) (u around)

theorem connects_and :
    Connects "AND" .and .yes (ExtendsRun I entity) (ContinuesRun I entity) where
  nil := ContinuesRun.nil
  behind := ContinuesRun.and_append
  append := ExtendsRun.append

theorem connects_or : Connects "OR" .or .no (AddsRuns I entity) (ContinuesRuns I entity) where
  nil := ContinuesRuns.nil
  behind := ContinuesRuns.or_append
  append := AddsRuns.append

/-- Tokens in parentheses are one operand. -/
theorem AddsRuns.parenthesized (h : AddsRuns I entity ts t) :
    ExtendsRun I entity (.opening :: ts ++ [.closing]) t := by
  intro stack before run rest
  obtain ⟨before', f, hread, htruth⟩ :=
    h (⟨none, before, run⟩ :: stack) none (.closing :: rest)
  refine ⟨joined and run (joined or before' f), ?_, ?_⟩
  · have hlist : .opening :: ts ++ [.closing] ++ rest = .opening :: (ts ++ .closing :: rest) := by
      simp
    rw [hlist, expectOperand_group rfl, hread, expectConnective_closing]
    rfl
  · intro around
    rw [truth_joined_and, truth_joined_or, htruth around]
    rfl

/-- The tokens of a subquery up to the end of its correlation. -/
def subqueryTokens (table left right : String) : List Token :=
  [.name "EXISTS", .opening, .name "SELECT", .number 1, .name "FROM", .name table, .name "WHERE",
    .name left, .symbol "=", .name right]

/-- A subquery is one operand. Its correlation and what continues from it are about one row. -/
theorem ContinuesRun.subquery (table left right : String) (h : ContinuesRun I entity us u) :
    ExtendsRun I entity (subqueryTokens table left right ++ us ++ [.closing]) fun around =>
      .ofBool ((I.rows table).any fun row =>
        ((I.correlated entity (row :: around) (left ++ " = " ++ right)).and
          (u (row :: around))).holds) := by
  intro stack before run rest
  obtain ⟨g, hread, htruth⟩ :=
    h (⟨some table, before, run⟩ :: stack) none (equal left right) (.closing :: rest)
  refine ⟨joined and run (existsRow table g), ?_, ?_⟩
  · have hlist : subqueryTokens table left right ++ us ++ [.closing] ++ rest =
        subqueryTokens table left right ++ (us ++ .closing :: rest) := by simp
    have hopen : operand? (subqueryTokens table left right ++ (us ++ .closing :: rest)) =
        some (.subquery table,
          .name left :: .symbol "=" :: .name right :: (us ++ .closing :: rest)) := rfl
    have hcorrelation : operand? (.name left :: .symbol "=" :: .name right ::
        (us ++ .closing :: rest)) = some (.whole (.equal left right), us ++ .closing :: rest) := rfl
    rw [hlist, expectOperand_subquery hopen, expectOperand_whole hcorrelation, joined, hread,
      expectConnective_closing]
    rfl
  · intro around
    rw [truth_joined_and, truth]
    simp only [htruth]
    rfl

end FilterQuery.Sql.Formula
