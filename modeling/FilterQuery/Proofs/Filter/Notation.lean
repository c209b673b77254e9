import FilterQuery.Proofs.Clause.Resolution
import FilterQuery.Proofs.Operator.Spelling

/-!
# The notation of filters

Which filter an item writes is said here by its texts, without the readers: a connective or an
operator may be absent, a null check may do without a value. `Item.filter_eq_ok_iff` states that
reading finds exactly the filters that are written, and `Item.standsFor_iff` that the group of an
item is that of the filter it writes.
-/

namespace FilterQuery

open Text

/-- What a text that may be absent writes: the default if it is absent. -/
inductive WritesOr {α : Type} (default : α) (spells : String → α → Prop) :
    Option String → α → Prop
  | absent : WritesOr default spells none default
  | text {s : String} {a : α} (h : spells s a) : WritesOr default spells (some s) a

/-- The text writes the connective; no text writes `and`. -/
def Connective.Written : Option String → Connective → Prop :=
  WritesOr .and fun s r => SameUpToCase s r.text

/-- The text writes the operator; no text writes `=`. -/
def Operator.Written : Option String → Operator → Prop :=
  WritesOr .equal fun s op => SameUpToCase (withoutKelvinSigns s) op.text

section WritesOr

variable {α : Type} {default a : α} {spells : String → α → Prop} {parse : String → Except Error α}
  {text : Option String} {e : Error}

theorem elim_eq_ok_iff_writesOr (h : ∀ {s a}, parse s = .ok a ↔ spells s a) :
    text.elim (.ok default) parse = .ok a ↔ WritesOr default spells text a := by
  cases text with
  | none =>
      constructor
      · rintro ⟨⟩
        exact .absent
      · rintro ⟨⟩
        rfl
  | some s =>
      rw [Option.elim_some, h]
      constructor
      · exact .text
      · intro hwrites
        cases hwrites with
        | text hspells => exact hspells

theorem elim_parse_eq_error_iff :
    text.elim (.ok default) parse = .error e ↔ ∃ s, text = some s ∧ parse s = .error e := by
  cases text <;> simp

end WritesOr

namespace Item

/-- The text writes a null check. -/
def WritesNullCheck (operator : Option String) : Prop :=
  ∃ s, operator = some s ∧ (SameUpToCase s "is null" ∨ SameUpToCase s "is not null")

/-- What stands for the value of a leaf: the value itself, or null if there is none and none is
needed. -/
inductive WritesValue (operator : Option String) : Option Json → Json → Prop
  | given {v : Json} (h : v ≠ .null) : WritesValue operator (some v) v
  | absent (h : WritesNullCheck operator) : WritesValue operator none .null
  | null (h : WritesNullCheck operator) : WritesValue operator (some .null) .null

/-- The item writes the filter. -/
inductive Writes : Item → Filter → Prop
  | leaf {field : String} {operator relation : Option String} {value : Option Json}
      {r : Connective} {op : Operator} {v : Json} (hrelation : Connective.Written relation r)
      (hvalue : WritesValue operator value v) (hoperator : Operator.Written operator op) :
      Writes (leaf (some field) operator value relation) (.leaf r field op v)
  | group {relation : Option String} {items : List Item} {r : Connective} {fs : List Filter}
      (hrelation : Connective.Written relation r) (hitems : List.Forall₂ Writes items fs) :
      Writes (group relation items) (.group r fs)

variable {relation operator : Option String} {value : Option Json} {r : Connective} {op : Operator}
  {v : Json} {e : Error}

theorem connective_eq_ok_iff : connective relation = .ok r ↔ Connective.Written relation r :=
  elim_eq_ok_iff_writesOr Connective.parses_iff

theorem operatorOf_eq_ok_iff : operatorOf operator = .ok op ↔ Operator.Written operator op :=
  elim_eq_ok_iff_writesOr Operator.parses_iff

theorem connective_eq_error_iff :
    connective relation = .error e ↔
      ∃ s, relation = some s ∧ (∀ r : Connective, ¬SameUpToCase s r.text) ∧
        e = .invalidConnective (lowerCase s) := by
  rw [connective, elim_parse_eq_error_iff]
  simp only [Connective.parse_eq_error_iff]

theorem operatorOf_eq_error_iff :
    operatorOf operator = .error e ↔
      ∃ s, operator = some s ∧
        (∀ op : Operator, ¬SameUpToCase (withoutKelvinSigns s) op.text) ∧
          e = .invalidOperator (lowerCase s) := by
  rw [operatorOf, elim_parse_eq_error_iff]
  simp only [Operator.parse_eq_error_iff]

/-- There is no k in a null check. -/
theorem hasNullCheck_iff : HasNullCheck operator ↔ WritesNullCheck operator := by
  have hnull {s : String} : Operator.parse s = .ok .isNull ↔ SameUpToCase s "is null" :=
    Operator.parses_iff_of_notMem (by simp [Operator.text])
  have hnotNull {s : String} : Operator.parse s = .ok .isNotNull ↔ SameUpToCase s "is not null" :=
    Operator.parses_iff_of_notMem (by simp [Operator.text])
  constructor
  · rintro ⟨s, op, rfl, hop, hcheck⟩
    cases op with
    | isNull => exact ⟨s, rfl, .inl (hnull.mp hop)⟩
    | isNotNull => exact ⟨s, rfl, .inr (hnotNull.mp hop)⟩
    | _ => cases hcheck
  · rintro ⟨s, rfl, h | h⟩
    · exact ⟨s, .isNull, rfl, hnull.mpr h, rfl⟩
    · exact ⟨s, .isNotNull, rfl, hnotNull.mpr h, rfl⟩

theorem missing_eq_ok_iff :
    valueOf.missing operator = .ok v ↔ WritesNullCheck operator ∧ v = .null := by
  rw [valueOf.missing, ← hasNullCheck_iff, ← namesNullCheck_iff]
  cases namesNullCheck operator <;> simp [eq_comm]

theorem valueOf_eq_ok_iff : valueOf operator value = .ok v ↔ WritesValue operator value v := by
  cases value with
  | none =>
      rw [valueOf, missing_eq_ok_iff]
      constructor
      · rintro ⟨h, rfl⟩
        exact .absent h
      · intro h
        cases h with
        | absent h => exact ⟨h, rfl⟩
  | some w =>
      by_cases hw : w = .null
      · subst hw
        change valueOf.missing operator = .ok v ↔ _
        rw [missing_eq_ok_iff]
        constructor
        · rintro ⟨h, rfl⟩
          exact .null h
        · intro h
          cases h with
          | given h => exact absurd rfl h
          | null h => exact ⟨h, rfl⟩
      · have hnull : w.isNull = false := Bool.eq_false_iff.mpr (mt Json.isNull_iff.mp hw)
        simp only [valueOf, hnull, Bool.not_false, if_true, Except.ok.injEq]
        constructor
        · rintro rfl
          exact .given hw
        · intro h
          cases h with
          | given h => rfl
          | null h => exact absurd rfl hw

theorem valueOf_eq_error_iff :
    valueOf operator value = .error e ↔
      (∀ v, value = some v → v = .null) ∧ ¬WritesNullCheck operator ∧ e = .missingPart .value := by
  have hhead : (valueProblems operator value).head? = some e ↔ e ∈ valueProblems operator value := by
    rw [valueProblems]
    split <;> simp [eq_comm]
  rw [← Outcome.problem?_eq_some_iff, problem?_valueOf, hhead, mem_valueProblems_iff,
    hasNullCheck_iff]
  simp only [Json.isNull_iff]

mutual

/-- An item is read as the filter that it writes. -/
theorem filter_eq_ok_iff : (item : Item) → {f : Filter} → (item.filter = .ok f ↔ item.Writes f)
  | .group relation items, f => by
      rw [filter]
      constructor
      · intro h
        obtain ⟨r, hr, h⟩ := Outcome.bind_eq_ok_iff.mp h
        obtain ⟨fs, hfs, h⟩ := Outcome.bind_eq_ok_iff.mp h
        cases h
        exact .group (connective_eq_ok_iff.mp hr) ((filters_eq_ok_iff items).mp hfs)
      · intro h
        cases h with
        | group hr hfs =>
            refine Outcome.bind_eq_ok_iff.mpr ⟨_, connective_eq_ok_iff.mpr hr, ?_⟩
            exact Outcome.bind_eq_ok_iff.mpr ⟨_, (filters_eq_ok_iff items).mpr hfs, rfl⟩
  | .leaf field operator value relation, f => by
      rw [filter]
      constructor
      · intro h
        obtain ⟨r, hr, h⟩ := Outcome.bind_eq_ok_iff.mp h
        obtain ⟨name, hname, h⟩ := Outcome.bind_eq_ok_iff.mp h
        obtain ⟨v, hv, h⟩ := Outcome.bind_eq_ok_iff.mp h
        obtain ⟨op, hop, h⟩ := Outcome.bind_eq_ok_iff.mp h
        cases h
        cases field with
        | none => cases hname
        | some text =>
            cases hname
            exact .leaf (connective_eq_ok_iff.mp hr) (valueOf_eq_ok_iff.mp hv)
              (operatorOf_eq_ok_iff.mp hop)
      · intro h
        cases h with
        | leaf hr hv hop =>
            refine Outcome.bind_eq_ok_iff.mpr ⟨_, connective_eq_ok_iff.mpr hr, ?_⟩
            refine Outcome.bind_eq_ok_iff.mpr ⟨_, rfl, ?_⟩
            refine Outcome.bind_eq_ok_iff.mpr ⟨_, valueOf_eq_ok_iff.mpr hv, ?_⟩
            exact Outcome.bind_eq_ok_iff.mpr ⟨_, operatorOf_eq_ok_iff.mpr hop, rfl⟩

theorem filters_eq_ok_iff : (items : List Item) → {fs : List Filter} →
    (filters items = .ok fs ↔ List.Forall₂ Writes items fs)
  | [], fs => by
      rw [filters, List.forall₂_nil_left_iff]
      constructor
      · rintro ⟨⟩
        rfl
      · rintro rfl
        rfl
  | item :: rest, fs => by
      rw [filters, List.forall₂_cons_left_iff]
      constructor
      · intro h
        obtain ⟨f, hf, h⟩ := Outcome.bind_eq_ok_iff.mp h
        obtain ⟨others, hothers, h⟩ := Outcome.bind_eq_ok_iff.mp h
        cases h
        exact ⟨f, others, (filter_eq_ok_iff item).mp hf, (filters_eq_ok_iff rest).mp hothers, rfl⟩
      · rintro ⟨f, others, hf, hothers, rfl⟩
        refine Outcome.bind_eq_ok_iff.mpr ⟨f, (filter_eq_ok_iff item).mpr hf, ?_⟩
        exact Outcome.bind_eq_ok_iff.mpr ⟨others, (filters_eq_ok_iff rest).mpr hothers, rfl⟩

end

/-- An item stands for the group of the filter that it writes. -/
theorem standsFor_iff {resolver : Resolver} {item : Item} {group : Clause} :
    item.StandsFor resolver group ↔ ∃ f, item.Writes f ∧ f.clause resolver = group := by
  rw [← resolve_eq_ok_iff, resolve_eq, Outcome.map_eq_ok_iff]
  simp only [filter_eq_ok_iff]

end Item

end FilterQuery
