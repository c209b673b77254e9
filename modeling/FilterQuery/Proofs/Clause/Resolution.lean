import Mathlib.Data.List.Forall2
import FilterQuery.Proofs.Filter.Basic
import FilterQuery.Proofs.Outcome

/-!
# Resolving items into a node

A node takes all of the items or none. What may be wrong with an item is said here for each of its
parts alone, and the problems of items are listed in the order of the document, whether or not
resolving would get that far. `Clause.appendItems_eq_iff` states that the first one in the list is
reported and the node stays as it is; that without one the node gets a group for every item; and
that items may come in two pieces.
-/

namespace FilterQuery

namespace Item

/-- The operator is named and reads as one that takes no value. -/
def HasNullCheck (operator : Option String) : Prop :=
  ∃ text op, operator = some text ∧ Operator.parse text = .ok op ∧ op.isNullCheck = true

/-- What is wrong with an item, apart from the items inside of it. -/
inductive Problem : Item → Error → Prop
  | relation {item : Item} {text : String} {e : Error} (htext : item.relation? = some text)
      (h : Connective.parse text = .error e) : Problem item e
  | field {operator relation : Option String} {value : Option Json} :
      Problem (leaf none operator value relation) (.missingPart .field)
  | value {field operator relation : Option String} {value : Option Json}
      (hnull : ∀ v, value = some v → v.isNull = true) (hcheck : ¬HasNullCheck operator) :
      Problem (leaf field operator value relation) (.missingPart .value)
  | operator {field relation : Option String} {value : Option Json} {text : String} {e : Error}
      (h : Operator.parse text = .error e) : Problem (leaf field (some text) value relation) e

/-- The item stands in another one, at any depth. -/
inductive Within (item : Item) : Item → Prop
  | here : Within item item
  | inside {relation : Option String} {items : List Item} {i : Item} (mem : i ∈ items)
      (below : Within item i) : Within item (group relation items)

/-- The group that an item stands for: it has the connective of the item, and either the tests that
the resolver has for the leaf or the groups of the items inside. -/
inductive StandsFor (resolver : Resolver) : Item → Clause → Prop
  | leaf {field : String} {operator relation : Option String} {value : Option Json}
      {r : Connective} {v : Json} {op : Operator} (hrelation : connective relation = .ok r)
      (hvalue : valueOf operator value = .ok v) (hoperator : operatorOf operator = .ok op) :
      StandsFor resolver (leaf (some field) operator value relation)
        (.group r (resolver field op v))
  | group {relation : Option String} {items : List Item} {r : Connective} {groups : List Clause}
      (hrelation : connective relation = .ok r)
      (hitems : List.Forall₂ (StandsFor resolver) items groups) :
      StandsFor resolver (group relation items) (.group r groups)

/-- The problem of a text that may be absent. -/
def textProblems {α : Type} (parse : String → Except Error α) (text : Option String) : List Error :=
  (text.bind fun t => Outcome.problem? (parse t)).toList

/-- The problem of a leaf without a field. -/
def fieldProblems (field : Option String) : List Error :=
  if field.isNone then [.missingPart .field] else []

/-- The problem of a leaf without a value that needs one. -/
def valueProblems (operator : Option String) (value : Option Json) : List Error :=
  if value.all Json.isNull && !namesNullCheck operator then [.missingPart .value] else []

mutual

/-- Everything that is wrong with an item, in the order of the document. -/
def problems : Item → List Error
  | leaf field operator value relation =>
    textProblems Connective.parse relation ++ fieldProblems field ++
      valueProblems operator value ++ textProblems Operator.parse operator
  | group relation items => textProblems Connective.parse relation ++ problemsAll items

/-- Everything that is wrong with items, in the order of the document. -/
def problemsAll : List Item → List Error
  | [] => []
  | item :: rest => problems item ++ problemsAll rest

end

variable {α : Type} {e : Error} {resolver : Resolver}

theorem mem_textProblems_iff {parse : String → Except Error α} {text : Option String} :
    e ∈ textProblems parse text ↔ ∃ t, text = some t ∧ parse t = .error e := by
  rw [textProblems, Option.mem_toList, Option.bind_eq_some_iff]
  simp only [Outcome.problem?_eq_some_iff]

theorem mem_fieldProblems_iff {field : Option String} :
    e ∈ fieldProblems field ↔ field = none ∧ e = .missingPart .field := by
  cases field with
  | none => simp [fieldProblems]
  | some text => simp [fieldProblems]

theorem namesNullCheck_iff {operator : Option String} :
    namesNullCheck operator = true ↔ HasNullCheck operator := by
  cases operator with
  | none => simp [namesNullCheck, operatorOf, Operator.isNullCheck, HasNullCheck]
  | some text =>
      cases h : Operator.parse text with
      | error e => simp [namesNullCheck, operatorOf, HasNullCheck, h]
      | ok op => simp [namesNullCheck, operatorOf, HasNullCheck, h]

theorem mem_valueProblems_iff {operator : Option String} {value : Option Json} :
    e ∈ valueProblems operator value ↔
      (∀ v, value = some v → v.isNull = true) ∧ ¬HasNullCheck operator ∧
        e = .missingPart .value := by
  rw [← namesNullCheck_iff, valueProblems]
  cases namesNullCheck operator with
  | true => simp
  | false => cases value <;> simp

/-- The problems of a leaf are those of its parts. -/
theorem mem_problems_leaf_iff {field operator relation : Option String} {value : Option Json} :
    e ∈ (leaf field operator value relation).problems ↔
      (leaf field operator value relation).Problem e := by
  simp only [problems, List.mem_append, mem_textProblems_iff, mem_fieldProblems_iff,
    mem_valueProblems_iff]
  constructor
  · rintro (((⟨text, rfl, h⟩ | ⟨rfl, rfl⟩) | ⟨hnull, hcheck, rfl⟩) | ⟨text, rfl, h⟩)
    · exact .relation rfl h
    · exact .field
    · exact .value hnull hcheck
    · exact .operator h
  · intro h
    cases h with
    | relation htext h => exact .inl (.inl (.inl ⟨_, htext, h⟩))
    | field => exact .inl (.inl (.inr ⟨rfl, rfl⟩))
    | value hnull hcheck => exact .inl (.inr ⟨hnull, hcheck, rfl⟩)
    | operator h => exact .inr ⟨_, rfl, h⟩

theorem within_leaf_iff {item : Item} {field operator relation : Option String}
    {value : Option Json} :
    Within item (leaf field operator value relation) ↔
      item = leaf field operator value relation := by
  constructor
  · rintro ⟨⟩
    rfl
  · rintro rfl
    exact .here

theorem within_group_iff {item : Item} {relation : Option String} {items : List Item} :
    Within item (group relation items) ↔
      item = group relation items ∨ ∃ i ∈ items, Within item i := by
  constructor
  · rintro (_ | ⟨mem, below⟩)
    · exact .inl rfl
    · exact .inr ⟨_, mem, below⟩
  · rintro (rfl | ⟨i, mem, below⟩)
    · exact .here
    · exact .inside mem below

theorem problem_group_iff (relation : Option String) (items : List Item) :
    (group relation items).Problem e ↔ e ∈ textProblems Connective.parse relation := by
  rw [mem_textProblems_iff]
  constructor
  · rintro ⟨htext, h⟩
    exact ⟨_, htext, h⟩
  · rintro ⟨text, htext, h⟩
    exact .relation htext h

mutual

/-- The list of problems has what is wrong with the item or with one inside of it. -/
theorem mem_problems_iff : (item : Item) →
    (e ∈ item.problems ↔ ∃ i, Within i item ∧ i.Problem e)
  | .leaf field operator value relation => by
      simp only [mem_problems_leaf_iff, within_leaf_iff, exists_eq_left]
  | .group relation items => by
      rw [problems, List.mem_append, ← problem_group_iff relation items,
        mem_problemsAll_iff items]
      simp only [within_group_iff, or_and_right, exists_or, exists_eq_left]
      constructor
      · rintro (h | ⟨item, mem, i, hi, h⟩)
        · exact .inl h
        · exact .inr ⟨i, ⟨item, mem, hi⟩, h⟩
      · rintro (h | ⟨i, ⟨item, mem, hi⟩, h⟩)
        · exact .inl h
        · exact .inr ⟨item, mem, i, hi, h⟩

theorem mem_problemsAll_iff : (items : List Item) →
    (e ∈ problemsAll items ↔ ∃ item ∈ items, ∃ i, Within i item ∧ i.Problem e)
  | [] => by simp [problemsAll]
  | item :: rest => by
      simp only [problemsAll, List.mem_append, mem_problems_iff item,
        mem_problemsAll_iff rest, List.mem_cons, or_and_right, exists_or, exists_eq_left]

end

theorem head?_textProblems (parse : String → Except Error α) (text : Option String) :
    (textProblems parse text).head? = text.bind fun t => Outcome.problem? (parse t) := by
  rw [textProblems, Option.head?_toList]

theorem problem?_connective (relation : Option String) :
    Outcome.problem? (connective relation) = (textProblems Connective.parse relation).head? := by
  rw [head?_textProblems]
  cases relation with
  | none => rfl
  | some text => rfl

theorem problem?_operatorOf (operator : Option String) :
    Outcome.problem? (operatorOf operator) = (textProblems Operator.parse operator).head? := by
  rw [head?_textProblems]
  cases operator with
  | none => rfl
  | some text => rfl

theorem problem?_valueOf (operator : Option String) (value : Option Json) :
    Outcome.problem? (valueOf operator value) = (valueProblems operator value).head? := by
  have hmissing : Outcome.problem? (valueOf.missing operator) =
      if namesNullCheck operator then none else some (.missingPart .value) := by
    rw [valueOf.missing]
    split
    · rfl
    · rfl
  cases value with
  | none =>
      rw [valueOf, hmissing, valueProblems]
      cases namesNullCheck operator <;> rfl
  | some v =>
      rw [valueOf, valueProblems]
      cases hv : v.isNull with
      | false => simp [hv, Outcome.problem?]
      | true =>
          rw [Bool.not_true, if_neg Bool.false_ne_true, hmissing]
          cases namesNullCheck operator <;> simp [hv]

mutual

/-- Reading an item fails with the first of its problems. -/
theorem problem?_filter : (item : Item) → Outcome.problem? item.filter = item.problems.head?
  | .group relation items => by
      rw [filter, problems, List.head?_append, ← problem?_connective, ← problem?_filters items]
      refine Outcome.problem?_bind fun r => ?_
      refine (Outcome.problem?_bind fun fs => ?_).trans (Option.or_none ..)
      rfl
  | .leaf field operator value relation => by
      have hfield : Outcome.problem? (field.elim (.error (.missingPart .field)) Except.ok) =
          (fieldProblems field).head? := by
        cases field <;> rfl
      rw [filter, problems, List.head?_append, List.head?_append, List.head?_append,
        ← problem?_connective, ← hfield, ← problem?_valueOf, ← problem?_operatorOf,
        Option.or_assoc, Option.or_assoc]
      -- what a part reads as has no influence on the problems of the parts behind it
      refine Outcome.problem?_bind fun r => ?_
      refine Outcome.problem?_bind fun name => ?_
      refine Outcome.problem?_bind fun v => ?_
      refine (Outcome.problem?_bind fun op => ?_).trans (Option.or_none ..)
      rfl

theorem problem?_filters : (items : List Item) →
    Outcome.problem? (filters items) = (problemsAll items).head?
  | [] => rfl
  | item :: rest => by
      rw [filters, Outcome.problem?_both, problem?_filter item, problem?_filters rest, problemsAll,
        List.head?_append]

end

mutual

/-- An item resolves to a group exactly if it stands for it. -/
theorem resolve_eq_ok_iff : (item : Item) → {group : Clause} →
    (item.resolve resolver = .ok group ↔ item.StandsFor resolver group)
  | .group relation items, c => by
      rw [resolve]
      constructor
      · intro h
        obtain ⟨r, hr, h⟩ := Outcome.bind_eq_ok_iff.mp h
        obtain ⟨groups, hgroups, h⟩ := Outcome.bind_eq_ok_iff.mp h
        cases h
        exact .group hr ((resolveAll_eq_ok_iff items).mp hgroups)
      · intro h
        cases h with
        | group hr hgroups =>
            refine Outcome.bind_eq_ok_iff.mpr ⟨_, hr, ?_⟩
            exact Outcome.bind_eq_ok_iff.mpr ⟨_, (resolveAll_eq_ok_iff items).mpr hgroups, rfl⟩
  | .leaf field operator value relation, c => by
      rw [resolve]
      constructor
      · intro h
        obtain ⟨r, hr, h⟩ := Outcome.bind_eq_ok_iff.mp h
        obtain ⟨name, hname, h⟩ := Outcome.bind_eq_ok_iff.mp h
        obtain ⟨v, hv, h⟩ := Outcome.bind_eq_ok_iff.mp h
        obtain ⟨op, hop, h⟩ := Outcome.bind_eq_ok_iff.mp h
        cases h
        cases field with
        | none => cases hname
        | some text =>
            cases hname
            exact .leaf hr hv hop
      · intro h
        cases h with
        | leaf hr hv hop =>
            refine Outcome.bind_eq_ok_iff.mpr ⟨_, hr, ?_⟩
            refine Outcome.bind_eq_ok_iff.mpr ⟨_, rfl, ?_⟩
            refine Outcome.bind_eq_ok_iff.mpr ⟨_, hv, ?_⟩
            exact Outcome.bind_eq_ok_iff.mpr ⟨_, hop, rfl⟩

theorem resolveAll_eq_ok_iff : (items : List Item) → {groups : List Clause} →
    (resolveAll resolver items = .ok groups ↔ List.Forall₂ (StandsFor resolver) items groups)
  | [], groups => by
      rw [resolveAll, List.forall₂_nil_left_iff]
      constructor
      · rintro ⟨⟩
        rfl
      · rintro rfl
        rfl
  | item :: rest, groups => by
      rw [resolveAll, List.forall₂_cons_left_iff]
      constructor
      · intro h
        obtain ⟨g, hg, h⟩ := Outcome.bind_eq_ok_iff.mp h
        obtain ⟨others, hothers, h⟩ := Outcome.bind_eq_ok_iff.mp h
        cases h
        exact ⟨g, others, (resolve_eq_ok_iff item).mp hg, (resolveAll_eq_ok_iff rest).mp hothers,
          rfl⟩
      · rintro ⟨g, others, hg, hothers, rfl⟩
        refine Outcome.bind_eq_ok_iff.mpr ⟨g, (resolve_eq_ok_iff item).mpr hg, ?_⟩
        exact Outcome.bind_eq_ok_iff.mpr ⟨others, (resolveAll_eq_ok_iff rest).mpr hothers, rfl⟩

end

/-- Items in two pieces resolve to the groups of the one and then of the other. -/
theorem resolveAll_append (items more : List Item) :
    resolveAll resolver (items ++ more) = do
      let front ← resolveAll resolver items
      let back ← resolveAll resolver more
      return front ++ back := by
  induction items with
  | nil =>
      rw [List.nil_append, resolveAll]
      cases resolveAll resolver more with
      | error e => rfl
      | ok back => rfl
  | cons item rest ih =>
      rw [List.cons_append, resolveAll, resolveAll, ih]
      cases resolve resolver item with
      | error e => rfl
      | ok group =>
          cases resolveAll resolver rest with
          | error e => rfl
          | ok front =>
              cases resolveAll resolver more with
              | error e => rfl
              | ok back => rfl

end Item

namespace Clause

/-- A node after items have been put into it: nothing has happened if that failed. -/
def afterItems (c : Clause) (resolver : Resolver) (items : List Item) : Clause :=
  match c.appendItems resolver items with
  | .ok c' => c'
  | .error _ => c

variable {resolver : Resolver} {c : Clause} {items : List Item}

theorem appendItems_eq (c : Clause) (resolver : Resolver) (items : List Item) :
    c.appendItems resolver items = (Item.resolveAll resolver items).map c.append := by
  rw [appendItems]
  cases Item.resolveAll resolver items with
  | error e => rfl
  | ok groups => rfl

theorem append_nil (c : Clause) : c.append [] = c := by
  cases c
  rw [append, List.append_nil]

theorem append_append (c : Clause) (groups more : List Clause) :
    c.append (groups ++ more) = (c.append groups).append more := by
  simp [append, List.append_assoc]

theorem problem?_appendItems :
    Outcome.problem? (c.appendItems resolver items) = (Item.problemsAll items).head? := by
  rw [appendItems_eq, Outcome.problem?_map, Item.resolveAll_eq, Outcome.problem?_map,
    Item.problem?_filters]

theorem appendItems_append (c : Clause) (resolver : Resolver) (items more : List Item) :
    c.appendItems resolver (items ++ more) =
      c.appendItems resolver items >>= fun c' => c'.appendItems resolver more := by
  rw [appendItems_eq, appendItems_eq, Item.resolveAll_append]
  cases Item.resolveAll resolver items with
  | error e => rfl
  | ok front =>
      change _ = (c.append front).appendItems resolver more
      rw [appendItems_eq]
      cases Item.resolveAll resolver more with
      | error e => rfl
      | ok back => exact congrArg Except.ok (append_append c front back)

/-- Putting in lists of items one after the other is putting in all of the items at once. -/
theorem foldlM_appendItems (lists : List (List Item)) (c : Clause) :
    (lists.foldlM (fun c' items => c'.appendItems resolver items) c) =
      c.appendItems resolver lists.flatten := by
  induction lists generalizing c with
  | nil =>
      rw [List.flatten_nil, appendItems_eq, Item.resolveAll]
      exact congrArg Except.ok (append_nil c).symm
  | cons items rest ih =>
      rw [List.foldlM_cons, List.flatten_cons, appendItems_append]
      simp only [ih]

/-- Putting items into a node fails exactly when something is wrong with an item at some depth. The
first problem in the order of the document is reported, and the node stays as it is. Otherwise the
node has the group of every item behind its children and is the same in all else. The items may as
well be put in one part after the other. -/
theorem appendItems_eq_iff (c : Clause) (resolver : Resolver) (items : List Item) :
    ((∃ e, c.appendItems resolver items = .error e) ↔
        ∃ item ∈ items, ∃ i, Item.Within i item ∧ ∃ e, i.Problem e) ∧
      (∀ e, e ∈ Item.problemsAll items ↔ ∃ item ∈ items, ∃ i, Item.Within i item ∧ i.Problem e) ∧
      (∀ e, c.appendItems resolver items = .error e ↔ (Item.problemsAll items).head? = some e) ∧
      (∀ e, c.appendItems resolver items = .error e → c.afterItems resolver items = c) ∧
      (∀ c', c.appendItems resolver items = .ok c' ↔
        ∃ groups, List.Forall₂ (Item.StandsFor resolver) items groups ∧
          c' = { c with children := c.children ++ groups }) ∧
      ∀ more, c.appendItems resolver (items ++ more) =
        c.appendItems resolver items >>= fun c' => c'.appendItems resolver more := by
  have herror (e : Error) : c.appendItems resolver items = .error e ↔
      (Item.problemsAll items).head? = some e := by
    rw [← Outcome.problem?_eq_some_iff, problem?_appendItems]
  have hproblems (e : Error) := Item.mem_problemsAll_iff (e := e) items
  refine ⟨?_, hproblems, herror, ?_, ?_, appendItems_append c resolver items⟩
  · constructor
    · rintro ⟨e, h⟩
      have hmem := List.mem_of_mem_head? ((herror e).mp h)
      obtain ⟨item, hitem, i, hi, hproblem⟩ := (hproblems e).mp hmem
      exact ⟨item, hitem, i, hi, e, hproblem⟩
    · rintro ⟨item, hitem, i, hi, e, hproblem⟩
      have hmem := (hproblems e).mpr ⟨item, hitem, i, hi, hproblem⟩
      exact ⟨_, (herror _).mpr (List.head?_eq_some_head (List.ne_nil_of_mem hmem))⟩
  · intro e h
    rw [afterItems, h]
  · intro c'
    rw [appendItems_eq, Outcome.map_eq_ok_iff]
    simp only [Item.resolveAll_eq_ok_iff, append, eq_comm (b := c')]

/-- A test, and in parentheses two others: one has no value and no readable operator, the other one
no field and no readable connective. -/
def unreadableInside : List Item :=
  [.test "title" (.string "A"),
    .bracket [.leaf (some "mood") (some "is nul") (some .null) none,
      .leaf none none (some (.string "B")) (some "xor")]]

/-- The value is what is missed first, and the node keeps its only child. -/
theorem afterItems_unreadableInside :
    Item.problemsAll unreadableInside =
        [.missingPart .value, .invalidOperator "is nul", .invalidConnective "xor",
          .missingPart .field] ∧
      (group .or [test "entries.id" .equal .null]).appendItems Schema.default.resolver
        unreadableInside = .error (.missingPart .value) ∧
      (group .or [test "entries.id" .equal .null]).afterItems Schema.default.resolver
        unreadableInside = group .or [test "entries.id" .equal .null] := by
  obtain ⟨-, -, herror, hkept, -⟩ := appendItems_eq_iff
    (group .or [test "entries.id" .equal .null]) Schema.default.resolver unreadableInside
  have hproblems : Item.problemsAll unreadableInside =
      [.missingPart .value, .invalidOperator "is nul", .invalidConnective "xor",
        .missingPart .field] := rfl
  have hfirst := (herror (.missingPart .value)).mpr (congrArg List.head? hproblems)
  exact ⟨hproblems, hfirst, hkept _ hfirst⟩

end Clause

end FilterQuery
