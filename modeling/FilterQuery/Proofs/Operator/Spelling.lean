import FilterQuery.Error
import FilterQuery.Proofs.Outcome
import FilterQuery.Proofs.Text.LowerCase

/-!
# Spellings of operators and connectives

Operators and connectives are meant to be read without regard to the case of ASCII letters. Reading
takes the lower-case form by the mappings of Unicode, so a Kelvin sign passes for the letter k of
`like` and `not like`. `parse_iff_sameUpToCase` states what is read from every text, and for which
texts a Kelvin sign makes a difference.
-/

namespace FilterQuery

open Text

variable {s : String} {op : Operator} {r : Connective}

theorem Operator.isForm_text (op : Operator) : IsForm op.text := by
  cases op <;> simp [IsForm, IsAscii, Operator.text]

theorem Connective.isForm_text (r : Connective) : IsForm r.text := by
  cases r <;> simp [IsForm, IsAscii, Connective.text]

theorem Connective.ofText?_eq_some_iff : Connective.ofText? s = some r ↔ s = r.text := by
  constructor
  · intro h
    rw [Connective.ofText?] at h
    split at h
    case isTrue hs =>
      cases h
      exact hs
    case isFalse =>
      split at h
      case isTrue hs =>
        cases h
        exact hs
      case isFalse => cases h
  · rintro rfl
    exact Connective.ofText?_text r

/-- What is read is decided by the lower-case form. -/
theorem Operator.parse_eq (s : String) :
    Operator.parse s =
      (Operator.ofText? (lowerCase s)).elim (.error (.invalidOperator (lowerCase s))) .ok := by
  rw [Operator.parse, Operator.read]
  cases Operator.ofText? (lowerCase s) <;> rfl

theorem Connective.parse_eq (s : String) :
    Connective.parse s =
      (Connective.ofText? (lowerCase s)).elim (.error (.invalidConnective (lowerCase s))) .ok := by
  rw [Connective.parse, Connective.read]
  cases Connective.ofText? (lowerCase s) <;> rfl

theorem elim_eq_ok_iff {α ε : Type} {x : Option α} {e : ε} {a : α} :
    x.elim (.error e) Except.ok = .ok a ↔ x = some a := by
  cases x <;> simp

theorem elim_eq_error_iff {α ε : Type} {x : Option α} {e e' : ε} :
    x.elim (.error e) Except.ok = .error e' ↔ (∀ a, x ≠ some a) ∧ e' = e := by
  cases x <;> simp [eq_comm]

theorem Operator.parses_iff :
    Operator.parse s = .ok op ↔ SameUpToCase (withoutKelvinSigns s) op.text := by
  rw [Operator.parse_eq, elim_eq_ok_iff, Operator.ofText?_eq_some_iff,
    op.isForm_text.lowerCase_eq_iff]

/-- Kelvin signs make no difference for an operator without the letter k. -/
theorem Operator.parses_iff_of_notMem (hk : 'k' ∉ op.text.toList) :
    Operator.parse s = .ok op ↔ SameUpToCase s op.text := by
  rw [Operator.parse_eq, elim_eq_ok_iff, Operator.ofText?_eq_some_iff,
    op.isForm_text.lowerCase_eq_iff_of_notMem hk]

/-- There is no k in a connective. -/
theorem Connective.parses_iff : Connective.parse s = .ok r ↔ SameUpToCase s r.text := by
  have hk : 'k' ∉ r.text.toList := by cases r <;> simp [Connective.text]
  rw [Connective.parse_eq, elim_eq_ok_iff, Connective.ofText?_eq_some_iff,
    r.isForm_text.lowerCase_eq_iff_of_notMem hk]

theorem Operator.parse_eq_error_iff {e : Error} :
    Operator.parse s = .error e ↔
      (∀ op : Operator, ¬SameUpToCase (withoutKelvinSigns s) op.text) ∧
        e = .invalidOperator (lowerCase s) := by
  simp only [← Operator.parses_iff, Operator.parse_eq, elim_eq_error_iff, ne_eq, elim_eq_ok_iff]

theorem Connective.parse_eq_error_iff {e : Error} :
    Connective.parse s = .error e ↔
      (∀ r : Connective, ¬SameUpToCase s r.text) ∧ e = .invalidConnective (lowerCase s) := by
  simp only [← Connective.parses_iff, Connective.parse_eq, elim_eq_error_iff, ne_eq,
    elim_eq_ok_iff]

/-- A text with a Kelvin sign is no operator as it stands. -/
theorem Operator.not_sameUpToCase (op : Operator) (hs : kelvinSign ∈ s.toList) :
    ¬SameUpToCase s op.text := by
  intro h
  exact absurd (op.isForm_text.isAscii h hs) (by decide)

/-- A text is read as an operator exactly if it is the operator up to the case of ASCII letters
after its Kelvin signs have become letters, and as a connective exactly if it is the connective up
to that case as it stands; any other text is refused, with its lower-case form. So Kelvin signs make
a difference to operators only, exactly if there is one and the letters in their place complete an
operator, and no other character outside ASCII is ever accepted. -/
theorem parse_iff_sameUpToCase (s : String) :
    (∀ op, Operator.parse s = .ok op ↔ SameUpToCase (withoutKelvinSigns s) op.text) ∧
      (∀ r, Connective.parse s = .ok r ↔ SameUpToCase s r.text) ∧
      (Operator.parse s = .error (.invalidOperator (lowerCase s)) ↔
        ∀ op : Operator, ¬SameUpToCase (withoutKelvinSigns s) op.text) ∧
      (Connective.parse s = .error (.invalidConnective (lowerCase s)) ↔
        ∀ r : Connective, ¬SameUpToCase s r.text) ∧
      ((∀ op, Operator.parse s = .ok op ↔ SameUpToCase s op.text) ↔
        kelvinSign ∉ s.toList ∨ ∀ op : Operator, ¬SameUpToCase (withoutKelvinSigns s) op.text) ∧
      ∀ c ∈ s.toList, ¬IsAscii c → (∀ r, Connective.parse s ≠ .ok r) ∧
        (c ≠ kelvinSign → ∀ op, Operator.parse s ≠ .ok op) := by
  simp only [Operator.parse_eq_error_iff, Connective.parse_eq_error_iff, ne_eq,
    Operator.parses_iff, Connective.parses_iff, implies_true, true_and, and_true]
  constructor
  · by_cases hs : kelvinSign ∈ s.toList
    · simp [hs, Operator.not_sameUpToCase]
    · simp [hs, withoutKelvinSigns_eq_self]
  · intro c hc hascii
    constructor
    · intro r h
      exact hascii (r.isForm_text.isAscii h hc)
    · intro hkelvin op h
      apply hascii
      apply op.isForm_text.isAscii h
      rw [withoutKelvinSigns, String.toList_map, List.mem_map]
      exact ⟨c, hc, kelvinToLetter_of_ne hkelvin⟩

/-- A dotted capital I is no letter i. -/
theorem parse_dottedLike :
    'İ' ∈ "lİke".toList ∧ ¬IsAscii 'İ' ∧ 'İ' ≠ kelvinSign ∧
      (∀ r, Connective.parse "lİke" ≠ .ok r) ∧ ∀ op, Operator.parse "lİke" ≠ .ok op := by
  have hmem : 'İ' ∈ "lİke".toList := by simp
  have hascii : ¬IsAscii 'İ' := by decide
  have hkelvin : 'İ' ≠ kelvinSign := by decide
  obtain ⟨hconnective, hoperator⟩ := (parse_iff_sameUpToCase "lİke").2.2.2.2.2 'İ' hmem hascii
  exact ⟨hmem, hascii, hkelvin, hconnective, hoperator hkelvin⟩

/-- A Kelvin sign passes for the letter of `like`, although the text is no operator up to the case
of ASCII letters. -/
theorem parse_likeWithKelvinSign :
    Operator.parse "li\u212Ae" = .ok .like ∧
      ∀ op : Operator, ¬SameUpToCase "li\u212Ae" op.text := by
  constructor
  · decide
  · intro op
    exact op.not_sameUpToCase (by simp [kelvinSign])

end FilterQuery
