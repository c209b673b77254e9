import FilterQuery.Text.Digits

/-!
# Reading 64-bit integers

An optional sign and at least one digit. The first problem in the order of the text is reported: a
character that is no digit, or a digit that leads out of the range. Main statement: `read_eq_ok_iff`
characterises the accepted texts by their digits and the number they spell.
-/

namespace FilterQuery.Number

/-- Why a text is no 64-bit integer. -/
inductive IntegerProblem where
  | empty
  | badDigit
  | tooLarge
  | tooSmall
deriving DecidableEq

/-- The wording of an integer problem. -/
def IntegerProblem.message : IntegerProblem → String
  | empty => "cannot parse integer from empty string"
  | badDigit => "invalid digit found in string"
  | tooLarge => "number too large to fit in target type"
  | tooSmall => "number too small to fit in target type"

namespace Integer

/-- The largest magnitude of a number with the given sign. -/
def bound (negative : Bool) : Nat :=
  if negative then 0x8000000000000000 else 0x7FFFFFFFFFFFFFFF

/-- Reads digits behind a magnitude. -/
def readDigits (negative : Bool) (magnitude : Nat) : List Char → Except IntegerProblem Nat
  | [] => .ok magnitude
  | c :: cs =>
    if !c.isDigit then .error .badDigit
    else
      let grown := 10 * magnitude + Text.digitValue c
      if bound negative < grown then .error (if negative then .tooSmall else .tooLarge)
      else readDigits negative grown cs

/-- The number of a sign and a magnitude. -/
def signed (negative : Bool) (magnitude : Nat) : Int :=
  if negative then -(magnitude : Int) else magnitude

/-- Reads the digits behind a sign, of which there must be one. -/
def readSigned (negative : Bool) (digits : List Char) : Except IntegerProblem Int :=
  if digits.isEmpty then .error .badDigit
  else (readDigits negative 0 digits).map (signed negative)

/-- Reads an integer. -/
def read : List Char → Except IntegerProblem Int
  | [] => .error .empty
  | '-' :: digits => readSigned true digits
  | '+' :: digits => readSigned false digits
  | digits => readSigned false digits

theorem foldl_digits_ge (n : Nat) (cs : List Char) :
    n ≤ cs.foldl (fun n c => 10 * n + Text.digitValue c) n := by
  induction cs generalizing n with
  | nil => exact Nat.le_refl n
  | cons c cs ih => exact Nat.le_trans (by omega) (ih (10 * n + Text.digitValue c))

theorem readDigits_eq_ok_iff {negative : Bool} {magnitude n : Nat} {cs : List Char}
    (h : magnitude ≤ bound negative) :
    readDigits negative magnitude cs = .ok n ↔
      (∀ c ∈ cs, c.isDigit = true) ∧ n ≤ bound negative ∧
        n = cs.foldl (fun n c => 10 * n + Text.digitValue c) magnitude := by
  induction cs generalizing magnitude with
  | nil =>
    simp only [readDigits, Except.ok.injEq, List.not_mem_nil, false_implies, implies_true,
      List.foldl_nil, true_and]
    omega
  | cons c cs ih =>
    have hge := foldl_digits_ge (10 * magnitude + Text.digitValue c) cs
    by_cases hc : c.isDigit = true
    · by_cases hb : bound negative < 10 * magnitude + Text.digitValue c
      · simp [readDigits, hc, hb]
        omega
      · simp [readDigits, hc, hb, ih (Nat.le_of_not_lt hb)]
    · simp [readDigits, hc]

theorem readSigned_eq_ok_iff {negative : Bool} {digits : List Char} {i : Int} :
    readSigned negative digits = .ok i ↔
      digits ≠ [] ∧ (∀ c ∈ digits, c.isDigit = true) ∧
        Text.decimalValue digits ≤ bound negative ∧
          i = signed negative (Text.decimalValue digits) := by
  unfold readSigned
  cases digits with
  | nil => simp
  | cons c cs =>
    cases h : readDigits negative 0 (c :: cs) with
    | error e =>
      have hn := mt (@readDigits_eq_ok_iff negative 0 (Text.decimalValue (c :: cs)) (c :: cs)
        (Nat.zero_le _)).2 (by simp [h])
      simp only [Text.decimalValue] at hn ⊢
      simp only [List.isEmpty_cons, Bool.false_eq_true, if_false, Except.map, reduceCtorEq,
        false_iff]
      rintro ⟨-, h1, h2, -⟩
      exact hn ⟨h1, h2, trivial⟩
    | ok n =>
      obtain ⟨h1, h2, h3⟩ := (readDigits_eq_ok_iff (Nat.zero_le _)).1 h
      have : Text.decimalValue (c :: cs) = n := h3.symm
      simp only [List.isEmpty_cons, Bool.false_eq_true, if_false, Except.map, Except.ok.injEq,
        this]
      constructor
      · rintro rfl
        exact ⟨by simp, h1, h2, rfl⟩
      · rintro ⟨-, -, -, rfl⟩
        rfl

end Integer

end FilterQuery.Number
