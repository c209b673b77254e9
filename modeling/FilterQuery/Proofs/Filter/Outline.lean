import FilterQuery.Proofs.Condition.Outline
import FilterQuery.Proofs.Filter.Compile

/-!
# Filters of the same form

Two filters have the same form when they differ in nothing but values and names of attributes. Both
are read, both compile, and the two conditions have the same outline: no step looks at a value
beyond the length of a list, or at the name of an attribute.
-/

namespace FilterQuery

open Condition

namespace Test

/-- A test with its values left out. -/
def outline : Test → Test
  | compare op _ => compare op .null
  | nullness isNull => nullness isNull
  | membership vs negated => membership (vs.map fun _ => .null) negated
  | range _ _ negated => range .null .null negated

theorem isNone_constant?_outline (t : Test) :
    t.outline.constant?.isNone = t.constant?.isNone := by
  cases t with
  | membership vs negated => cases vs <;> rfl
  | compare op v => rfl
  | nullness isNull => rfl
  | range lower upper negated => rfl

theorem outline_membership_eq {vs ws : List Json} (h : vs.length = ws.length) (negated : Bool) :
    (membership vs negated).outline = (membership ws negated).outline := by
  rw [outline, outline, List.map_const', List.map_const', h]

end Test

theorem Condition.outline_ofTest (column : String) (t : Test) :
    (ofTest column t).outline = ofTest column t.outline := by
  cases t with
  | membership vs negated => cases vs <;> cases negated <;> rfl
  | compare op v => rfl
  | nullness isNull => rfl
  | range lower upper negated => rfl

namespace Schema

variable {s : Schema}

/-- Two fields are tested in the same place: they are one column of the entity table, or both are
none. -/
def SamePlace (s : Schema) (field field' : String) : Prop :=
  (field ∈ s.entity.columns ∧ field' = field) ∨
    (field ∉ s.entity.columns ∧ field' ∉ s.entity.columns)

theorem outline_correlate_ofTest (table correlation column : String) (t : Test) :
    (correlate table correlation (ofTest column t)).outline =
      correlate table correlation (ofTest column t.outline) := by
  rw [correlate_ofTest, correlate_ofTest, Test.isNone_constant?_outline]
  split
  · rw [wrap, outline, outline_ofTest, wrap]
  · exact outline_ofTest column t

/-- The outline of a leaf's condition depends on the place of the field and the outline of the
test. -/
theorem outline_leafCondition {field field' : String} {t u : Test}
    (hplace : s.SamePlace field field') (htest : t.outline = u.outline) :
    (s.leafCondition field t).outline = (s.leafCondition field' u).outline := by
  rcases hplace with ⟨hfield, rfl⟩ | ⟨hfield, hfield'⟩
  · have hcolumn := EntityTable.hasColumn_iff.mpr hfield
    rw [leafCondition, leafCondition, if_pos hcolumn, if_pos hcolumn, outline_correlate_ofTest,
      outline_correlate_ofTest, htest]
  · rw [leafCondition, leafCondition, if_neg (mt EntityTable.hasColumn_iff.mp hfield),
      if_neg (mt EntityTable.hasColumn_iff.mp hfield')]
    simp only [wrap, outline, outlines, outline_ofTest, htest]

end Schema

/-- Two values that an operator treats alike: lists of one length for membership, pairs for a range,
anything for a null check, and any two values that are there otherwise. -/
def Operator.TreatsAlike : Operator → Option Json → Option Json → Prop
  | inList, value, value' | notInList, value, value' =>
    ∃ vs ws, value = some (.array vs) ∧ value' = some (.array ws) ∧ vs.length = ws.length
  | between, value, value' | notBetween, value, value' =>
    ∃ lower upper lower' upper', value = some (.array [lower, upper]) ∧
      value' = some (.array [lower', upper'])
  | isNull, _, _ | isNotNull, _, _ => True
  | _, value, value' => ∃ v w, value = some v ∧ value' = some w ∧ v ≠ .null ∧ w ≠ .null

namespace Item

/-- Two texts name the same connective. -/
def SameConnective (relation relation' : Option String) : Prop :=
  ∃ c, connective relation = .ok c ∧ connective relation' = .ok c

mutual

/-- Two items have the same form: the same groups around leaves with the same connective, place and
operator, and with values that the operator treats alike. -/
def SameForm (s : Schema) : Item → Item → Prop
  | leaf field operator value relation, leaf field' operator' value' relation' =>
    SameConnective relation relation' ∧
      (∃ f g, field = some f ∧ field' = some g ∧ s.SamePlace f g) ∧
      ∃ op, operatorOf operator = .ok op ∧ operatorOf operator' = .ok op ∧
        op.TreatsAlike value value'
  | group relation items, group relation' items' =>
    SameConnective relation relation' ∧ SameForms s items items'
  | _, _ => False

/-- Two lists have items of the same form, one by one. -/
def SameForms (s : Schema) : List Item → List Item → Prop
  | [], [] => True
  | item :: rest, item' :: rest' => SameForm s item item' ∧ SameForms s rest rest'
  | _, _ => False

end

theorem valueOf_some {operator : Option String} {v : Json} (h : v ≠ .null) :
    valueOf operator (some v) = .ok v := by
  have hnull : v.isNull = false := Bool.eq_false_iff.mpr (mt Json.isNull_iff.mp h)
  simp [valueOf, hnull]

/-- A null check has a value, whatever is written. -/
theorem exists_valueOf_of_isNullCheck {operator : Option String} {op : Operator}
    (hop : operatorOf operator = .ok op) (hcheck : op.isNullCheck = true) (value : Option Json) :
    ∃ v, valueOf operator value = .ok v := by
  have hmissing : valueOf.missing operator = .ok .null := by
    rw [valueOf.missing, namesNullCheck, hop]
    exact if_pos hcheck
  cases value with
  | none => exact ⟨_, hmissing⟩
  | some v =>
      cases hnull : v.isNull with
      | true =>
          rw [valueOf, hnull]
          exact ⟨_, hmissing⟩
      | false =>
          rw [valueOf, hnull]
          exact ⟨_, rfl⟩

/-- What a leaf with an operator asks of its column. -/
def Asks (operator : Option String) (op : Operator) (value : Option Json) (t : Test) : Prop :=
  ∃ v, valueOf operator value = .ok v ∧ Test.ofOperator op v = .ok t

theorem asks_some {operator : Option String} {op : Operator} {v : Json} {t : Test} (h : v ≠ .null)
    (ht : Test.ofOperator op v = .ok t) : Asks operator op (some v) t :=
  ⟨v, valueOf_some h, ht⟩

/-- Two leaves with one operator ask for tests of one outline. -/
def AskAlike (operator operator' : Option String) (op : Operator) (value value' : Option Json) :
    Prop :=
  ∃ t u, Asks operator op value t ∧ Asks operator' op value' u ∧ t.outline = u.outline

section AskAlike

variable {operator operator' : Option String} {op : Operator}

theorem askAlike_of_lists {vs ws : List Json} {negated : Bool}
    (hop : ∀ vs, Test.ofOperator op (.array vs) = .ok (.membership vs negated))
    (hlength : vs.length = ws.length) :
    AskAlike operator operator' op (some (.array vs)) (some (.array ws)) :=
  ⟨_, _, asks_some (by simp) (hop vs), asks_some (by simp) (hop ws),
    Test.outline_membership_eq hlength negated⟩

theorem askAlike_of_pairs {lower upper lower' upper' : Json} {negated : Bool}
    (hop : ∀ l u, Test.ofOperator op (.array [l, u]) = .ok (.range l u negated)) :
    AskAlike operator operator' op (some (.array [lower, upper]))
      (some (.array [lower', upper'])) :=
  ⟨_, _, asks_some (by simp) (hop lower upper), asks_some (by simp) (hop lower' upper'), rfl⟩

theorem askAlike_of_values {v w : Json} (hop : ∀ v, Test.ofOperator op v = .ok (.compare op v))
    (hv : v ≠ .null) (hw : w ≠ .null) : AskAlike operator operator' op (some v) (some w) :=
  ⟨_, _, asks_some hv (hop v), asks_some hw (hop w), rfl⟩

theorem askAlike_of_isNullCheck {isNull : Bool} (hoperator : operatorOf operator = .ok op)
    (hoperator' : operatorOf operator' = .ok op) (hcheck : op.isNullCheck = true)
    (hop : ∀ v, Test.ofOperator op v = .ok (.nullness isNull)) (value value' : Option Json) :
    AskAlike operator operator' op value value' := by
  obtain ⟨v, hv⟩ := exists_valueOf_of_isNullCheck hoperator hcheck value
  obtain ⟨w, hw⟩ := exists_valueOf_of_isNullCheck hoperator' hcheck value'
  exact ⟨_, _, ⟨v, hv, hop v⟩, ⟨w, hw, hop w⟩, rfl⟩

/-- Values that an operator treats alike ask for tests of one outline. -/
theorem askAlike_of_treatsAlike {value value' : Option Json}
    (hoperator : operatorOf operator = .ok op) (hoperator' : operatorOf operator' = .ok op)
    (h : op.TreatsAlike value value') : AskAlike operator operator' op value value' := by
  cases op with
  | inList | notInList =>
      obtain ⟨vs, ws, rfl, rfl, hlength⟩ := h
      exact askAlike_of_lists (fun _ => rfl) hlength
  | between | notBetween =>
      obtain ⟨lower, upper, lower', upper', rfl, rfl⟩ := h
      exact askAlike_of_pairs fun _ _ => rfl
  | isNull | isNotNull =>
      exact askAlike_of_isNullCheck hoperator hoperator' rfl (fun _ => rfl) value value'
  | _ =>
      obtain ⟨v, w, rfl, rfl, hv, hw⟩ := h
      exact askAlike_of_values (fun _ => rfl) hv hw

end AskAlike

/-- An item is read, and its filter adds `part` to the scope around it. -/
def Adds (s : Schema) (item : Item) (part : Option (Connective × Condition)) : Prop :=
  ∃ f, item.filter = .ok f ∧ f.element s = .ok part

/-- Items are read, and their filters add `parts` to the scope around them. -/
def AllAdd (s : Schema) (items : List Item) (parts : List (Connective × Condition)) : Prop :=
  ∃ fs, filters items = .ok fs ∧ Filter.chain s fs = .ok parts

section Adds

variable {s : Schema} {relation operator : Option String} {c : Connective}

theorem adds_leaf {field : String} {op : Operator} {value : Option Json} {t : Test}
    (hrelation : connective relation = .ok c) (hop : operatorOf operator = .ok op)
    (ht : Asks operator op value t) :
    Adds s (.leaf (some field) operator value relation) (some (c, s.leafCondition field t)) := by
  obtain ⟨v, hv, ht⟩ := ht
  refine ⟨.leaf c field op v, ?_, ?_⟩
  · rw [filter, hrelation, hv, hop]
    rfl
  · rw [Filter.element, ht]
    rfl

theorem adds_group {items : List Item} {parts : List (Connective × Condition)}
    (hrelation : connective relation = .ok c) (h : AllAdd s items parts) :
    Adds s (.group relation items) ((ofChain parts).map fun d => (c, d)) := by
  obtain ⟨fs, hfs, hparts⟩ := h
  refine ⟨.group c fs, ?_, ?_⟩
  · rw [filter, hrelation, hfs]
    rfl
  · rw [Filter.element, hparts]
    rfl

theorem allAdd_cons {item : Item} {rest : List Item} {part : Option (Connective × Condition)}
    {parts : List (Connective × Condition)} (h : Adds s item part) (hrest : AllAdd s rest parts) :
    AllAdd s (item :: rest) (part.toList ++ parts) := by
  obtain ⟨f, hf, hpart⟩ := h
  obtain ⟨fs, hfs, hparts⟩ := hrest
  refine ⟨f :: fs, ?_, ?_⟩
  · rw [filters, hf, hfs]
    rfl
  · rw [Filter.chain, hpart, hparts]
    rfl

end Adds

mutual

/-- Items of the same form are read and add parts of one outline. -/
theorem exists_adds {s : Schema} : (item item' : Item) → SameForm s item item' →
    ∃ p q, Adds s item p ∧ Adds s item' q ∧ p.map outlinePart = q.map outlinePart
  | .leaf field operator value relation, .leaf field' operator' value' relation', h => by
      obtain ⟨⟨c, hc, hc'⟩, ⟨f, g, rfl, rfl, hplace⟩, op, hop, hop', halike⟩ := h
      obtain ⟨t, u, ht, hu, htest⟩ := askAlike_of_treatsAlike hop hop' halike
      refine ⟨_, _, adds_leaf hc hop ht, adds_leaf hc' hop' hu, ?_⟩
      exact congrArg (fun d => some (c, d)) (s.outline_leafCondition hplace htest)
  | .group relation items, .group relation' items', h => by
      obtain ⟨⟨c, hc, hc'⟩, hitems⟩ := h
      obtain ⟨ps, qs, hps, hqs, hparts⟩ := exists_allAdd items items' hitems
      refine ⟨_, _, adds_group hc hps, adds_group hc' hqs, ?_⟩
      have houtline : ∀ o : Option Condition,
          (o.map fun d => (c, d)).map outlinePart = (o.map outline).map fun d => (c, d) := by
        intro o
        cases o <;> rfl
      rw [houtline, houtline, outline_ofChain_of_eq hparts]
  | .leaf .., .group .., h => h.elim
  | .group .., .leaf .., h => h.elim

theorem exists_allAdd {s : Schema} : (items items' : List Item) → SameForms s items items' →
    ∃ ps qs, AllAdd s items ps ∧ AllAdd s items' qs ∧ ps.map outlinePart = qs.map outlinePart
  | [], [], _ => ⟨[], [], ⟨[], rfl, rfl⟩, ⟨[], rfl, rfl⟩, rfl⟩
  | item :: rest, item' :: rest', h => by
      obtain ⟨p, q, hp, hq, hpart⟩ := exists_adds item item' h.1
      obtain ⟨ps, qs, hps, hqs, hparts⟩ := exists_allAdd rest rest' h.2
      refine ⟨_, _, allAdd_cons hp hps, allAdd_cons hq hqs, ?_⟩
      rw [List.map_append, List.map_append, hparts, ← Option.toList_map, ← Option.toList_map,
        hpart]
  | [], _ :: _, h => h.elim
  | _ :: _, [], h => h.elim

end

end Item

namespace Clause

variable {s : Schema} {items items' : List Item}

/-- Items resolve and compile to the condition of what they add. -/
theorem exists_compile_of_allAdd (h : s.Checked) {parts : List (Connective × Condition)}
    (hparts : Item.AllAdd s items parts) :
    ∃ clause, ofItems s.resolver items = .ok clause ∧
      clause.compile s = .ok ((ofChain parts).getD (.all [])) := by
  obtain ⟨fs, hfs, hparts⟩ := hparts
  refine ⟨_, ofItems_eq_ok_iff.mpr ⟨fs, hfs, rfl⟩, ?_⟩
  rw [compile_clauses h, hparts]
  rfl

/-- Items of the same form resolve and compile, to conditions of one outline. -/
theorem exists_compile_of_sameForms (h : s.Checked) (hform : Item.SameForms s items items') :
    ∃ clause clause' c c', ofItems s.resolver items = .ok clause ∧
      ofItems s.resolver items' = .ok clause' ∧ clause.compile s = .ok c ∧
      clause'.compile s = .ok c' ∧ c.outline = c'.outline := by
  obtain ⟨ps, qs, hps, hqs, hparts⟩ := Item.exists_allAdd items items' hform
  obtain ⟨clause, hclause, hc⟩ := exists_compile_of_allAdd h hps
  obtain ⟨clause', hclause', hc'⟩ := exists_compile_of_allAdd h hqs
  refine ⟨clause, clause', _, _, hclause, hclause', hc, hc', ?_⟩
  have hfold := outline_ofChain_of_eq hparts
  rw [← Option.getD_map outline, ← Option.getD_map outline, hfold]

end Clause

end FilterQuery
