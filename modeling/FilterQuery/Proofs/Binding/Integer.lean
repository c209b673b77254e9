import FilterQuery.Proofs.Binding.Bytes
import FilterQuery.Proofs.Text.Blank

/-!
# Integers are bound exactly

What integer a value denotes is said here without the readers, and what integer bytes spell without
the writers. `Binding.encode_integer_iff` states that a value can be bound as a type of integers
exactly if it denotes an integer within the range of the type, and that the bytes are then the word
of that integer. So nothing is cut off, wrapped around or rounded.
-/

namespace FilterQuery

/-- The text consists of digits, at least one. -/
def Number.Integer.IsNumeral (digits : List Char) : Prop :=
  digits ≠ [] ∧ ∀ c ∈ digits, c.isDigit = true

/-- The text spells the integer in decimal notation: a sign or none, and digits. -/
inductive Number.Integer.Spells : List Char → Int → Prop
  | plain {digits : List Char} (h : IsNumeral digits) : Spells digits (Text.decimalValue digits)
  | plus {digits : List Char} (h : IsNumeral digits) :
      Spells ('+' :: digits) (Text.decimalValue digits)
  | minus {digits : List Char} (h : IsNumeral digits) :
      Spells ('-' :: digits) (-(Text.decimalValue digits : Int))

/-- The value denotes the integer: it is that number, or a string that spells it between blanks. -/
inductive Json.Denotes : Json → Int → Prop
  | number {i : Int} (fits : -0x8000000000000000 ≤ i ∧ i < 0x10000000000000000) :
      Denotes (.number (.integer i fits)) i
  | string {s : String} {i : Int} {before text after : List Char}
      (htext : s.toList = before ++ text ++ after) (hbefore : Text.AllBlank before)
      (hspells : Number.Integer.Spells text i) (hafter : Text.AllBlank after) :
      Denotes (.string s) i

/-- The number of bytes of a type of integers. -/
def Binding.SqlType.integerWidth? : Binding.SqlType → Option Nat
  | .int2 => some 2
  | .int4 => some 4
  | .int8 => some 8
  | _ => none

namespace Number.Integer

variable {cs digits : List Char} {i : Int}

theorem IsNumeral.noneBlank (h : IsNumeral digits) : Text.NoneBlank digits :=
  fun c hc => Text.isBlank_of_isDigit (h.2 c hc)

theorem Spells.ne_nil (h : Spells cs i) : cs ≠ [] := by
  cases h with
  | plain h => exact h.1
  | plus h => exact List.cons_ne_nil _ _
  | minus h => exact List.cons_ne_nil _ _

theorem Spells.noneBlank (h : Spells cs i) : Text.NoneBlank cs := by
  cases h with
  | plain h => exact h.noneBlank
  | plus h => exact List.forall_mem_cons.mpr ⟨by decide, h.noneBlank⟩
  | minus h => exact List.forall_mem_cons.mpr ⟨by decide, h.noneBlank⟩

/-- The bound on the magnitude keeps the integer to 64 bits. -/
theorem le_bound_iff {negative : Bool} {n : Nat} :
    n ≤ bound negative ↔ Binding.FitsWord 8 (signed negative n) := by
  rw [Binding.FitsWord]
  cases negative <;> simp only [bound, signed, if_true, Bool.false_eq_true, if_false] <;> omega

theorem readSigned_eq_ok_iff_isNumeral {negative : Bool} :
    readSigned negative digits = .ok i ↔
      IsNumeral digits ∧ i = signed negative (Text.decimalValue digits) ∧ Binding.FitsWord 8 i := by
  rw [readSigned_eq_ok_iff, IsNumeral, le_bound_iff]
  constructor
  · rintro ⟨hne, hdigits, hfits, rfl⟩
    exact ⟨⟨hne, hdigits⟩, rfl, hfits⟩
  · rintro ⟨⟨hne, hdigits⟩, rfl, hfits⟩
    exact ⟨hne, hdigits, hfits, rfl⟩

/-- A sign is no digit, so what a text with a sign spells is decided by the digits behind it. -/
theorem spells_minus_iff : Spells ('-' :: digits) i ↔
    IsNumeral digits ∧ i = signed true (Text.decimalValue digits) := by
  constructor
  · intro h
    cases h with
    | plain h => exact absurd (h.2 '-' List.mem_cons_self) (by decide)
    | minus h => exact ⟨h, rfl⟩
  · rintro ⟨h, rfl⟩
    exact .minus h

theorem spells_plus_iff : Spells ('+' :: digits) i ↔
    IsNumeral digits ∧ i = signed false (Text.decimalValue digits) := by
  constructor
  · intro h
    cases h with
    | plain h => exact absurd (h.2 '+' List.mem_cons_self) (by decide)
    | plus h => exact ⟨h, rfl⟩
  · rintro ⟨h, rfl⟩
    exact .plus h

theorem spells_iff_of_unsigned (hminus : ∀ digits, cs ≠ '-' :: digits)
    (hplus : ∀ digits, cs ≠ '+' :: digits) :
    Spells cs i ↔ IsNumeral cs ∧ i = signed false (Text.decimalValue cs) := by
  constructor
  · intro h
    cases h with
    | plain h => exact ⟨h, rfl⟩
    | plus h => exact absurd rfl (hplus _)
    | minus h => exact absurd rfl (hminus _)
  · rintro ⟨h, rfl⟩
    exact .plain h

/-- The texts that are read are those that spell an integer of 64 bits. -/
theorem read_eq_ok_iff : read cs = .ok i ↔ Spells cs i ∧ Binding.FitsWord 8 i := by
  rw [read.eq_def]
  split
  case h_1 => simpa using fun h _ => Spells.ne_nil h rfl
  case h_2 => rw [readSigned_eq_ok_iff_isNumeral, spells_minus_iff, and_assoc]
  case h_3 => rw [readSigned_eq_ok_iff_isNumeral, spells_plus_iff, and_assoc]
  case h_4 hminus hplus =>
    rw [readSigned_eq_ok_iff_isNumeral, spells_iff_of_unsigned hminus hplus, and_assoc]

end Number.Integer

namespace Binding

variable {value : Json} {type : SqlType} {width : Nat} {i : Int} {bs : List UInt8}

/-- A string denotes what is spelled between its blanks. -/
theorem denotes_string_iff {s : String} :
    Json.Denotes (.string s) i ↔ Number.Integer.Spells (Text.trim s.toList) i := by
  constructor
  · intro h
    cases h with
    | string htext hbefore hspells hafter =>
        rwa [htext, Text.trim_append hspells.ne_nil hbefore hspells.noneBlank hafter]
  · intro h
    obtain ⟨before, after, htext, hbefore, hafter⟩ := Text.exists_eq_append_trim s.toList
    exact .string htext hbefore h hafter

theorem int64?_eq_some_iff {n : Json.Number} :
    n.int64? = some i ↔ Json.Denotes (.number n) i ∧ FitsWord 8 i := by
  constructor
  · intro h
    cases n with
    | integer j fits =>
        rw [Json.Number.int64?, Option.ite_none_right_eq_some] at h
        obtain ⟨hlt, ⟨⟩⟩ := h
        exact ⟨.number fits, fits.1, hlt⟩
    | double x => cases h
  · rintro ⟨⟨fits⟩, -, hlt⟩
    exact if_pos hlt

/-- A value is read as the integer that it denotes, if that is one of 64 bits. -/
theorem toInteger_eq_ok_iff : toInteger value = .ok i ↔ value.Denotes i ∧ FitsWord 8 i := by
  cases value with
  | number n =>
      rw [← int64?_eq_some_iff, toInteger]
      cases n.int64? <;> simp
  | string s =>
      rw [toInteger, Outcome.mapError_eq_ok_iff, Number.Integer.read_eq_ok_iff, denotes_string_iff]
  | null | boolean _ | array _ | object _ =>
      constructor
      · exact nofun
      · rintro ⟨⟨⟩, -⟩

/-- A word is written exactly if the integer fits it, and it is the word of that integer. -/
theorem integerBytes_eq_ok_iff (hwidth : 0 < width) :
    integerBytes width i = .ok bs ↔ FitsWord width i ∧ bs.length = width ∧ intValue bs = i := by
  have hhalf : ((Nat.pow 2 (8 * width - 1) : Nat) : Int) = 2 ^ (8 * width - 1) :=
    Nat.cast_pow 2 (8 * width - 1)
  rw [integerBytes, hhalf]
  constructor
  · intro h
    split at h
    case isTrue hfits =>
      exact ⟨hfits, (eq_twosComplement_iff hwidth hfits).mp (Except.ok.inj h).symm⟩
    case isFalse => cases h
  · rintro ⟨hfits, hbs⟩
    rw [(eq_twosComplement_iff hwidth hfits).mpr hbs]
    exact if_pos hfits

theorem bytes_of_integerWidth (hwidth : type.integerWidth? = some width) :
    bytes value type = toInteger value >>= integerBytes width := by
  cases type <;> cases hwidth <;> rfl

theorem FitsWord.widen {wide : Nat} (h : FitsWord width i) (hle : width ≤ wide) :
    FitsWord wide i := by
  have hpow : (2 : Int) ^ (8 * width - 1) ≤ 2 ^ (8 * wide - 1) :=
    pow_le_pow_right₀ (by norm_num) (by omega)
  obtain ⟨hlow, hhigh⟩ := h
  constructor <;> omega

theorem integerWidth_bounds (hwidth : type.integerWidth? = some width) : 0 < width ∧ width ≤ 8 := by
  cases type <;> cases hwidth <;> decide

theorem exists_integerWord (hwidth : 0 < width) (h : FitsWord width i) :
    ∃ bs, bs.length = width ∧ intValue bs = i :=
  ⟨_, (eq_twosComplement_iff hwidth h).mp rfl⟩

theorem bytes_integer_eq_ok_iff (hwidth : type.integerWidth? = some width) :
    bytes value type = .ok bs ↔
      ∃ i, value.Denotes i ∧ FitsWord width i ∧ bs.length = width ∧ intValue bs = i := by
  obtain ⟨hpos, hle⟩ := integerWidth_bounds hwidth
  simp only [bytes_of_integerWidth hwidth, Outcome.bind_eq_ok_iff, toInteger_eq_ok_iff,
    integerBytes_eq_ok_iff hpos]
  constructor
  · rintro ⟨i, ⟨hdenotes, -⟩, hfits, hbs⟩
    exact ⟨i, hdenotes, hfits, hbs⟩
  · rintro ⟨i, hdenotes, hfits, hbs⟩
    exact ⟨i, ⟨hdenotes, hfits.widen hle⟩, hfits, hbs⟩

/-- A value is bound as a type of integers exactly if it denotes an integer that fits the type, and
the bytes are as many as the type has and spell this integer. Any other value is refused, apart
from null. -/
theorem encode_integer_iff (hwidth : type.integerWidth? = some width) (value : Json) :
    (∀ bs, encode type value = .ok (some bs) ↔
        ∃ i, value.Denotes i ∧ FitsWord width i ∧ bs.length = width ∧ intValue bs = i) ∧
      ((∃ bs, encode type value = .ok (some bs)) ↔ ∃ i, value.Denotes i ∧ FitsWord width i) ∧
      ((∃ problem, encode type value = .error problem) ↔
        value ≠ .null ∧ ¬∃ i, value.Denotes i ∧ FitsWord width i) := by
  by_cases hnull : value = .null
  · subst hnull
    have hdenotes (i : Int) : ¬Json.null.Denotes i := nofun
    simp [hdenotes]
  · have hword (bs : List UInt8) : encode type value = .ok (some bs) ↔
        ∃ i, value.Denotes i ∧ FitsWord width i ∧ bs.length = width ∧ intValue bs = i := by
      rw [encode_eq_some_iff hnull, bytes_integer_eq_ok_iff hwidth]
    have hbound : (∃ bs, encode type value = .ok (some bs)) ↔
        ∃ i, value.Denotes i ∧ FitsWord width i := by
      simp only [hword]
      constructor
      · rintro ⟨bs, i, hdenotes, hfits, -⟩
        exact ⟨i, hdenotes, hfits⟩
      · rintro ⟨i, hdenotes, hfits⟩
        obtain ⟨bs, hbs⟩ := exists_integerWord (integerWidth_bounds hwidth).1 hfits
        exact ⟨bs, i, hdenotes, hfits, hbs⟩
    refine ⟨hword, hbound, ?_⟩
    simp only [← hbound, encode_eq_some_iff hnull, encode_eq_error_iff hnull]
    cases bytes value type <;> simp [hnull]

/-- The greatest integer of two bytes is bound from a string with blanks, a sign and zeros. -/
theorem encode_paddedInteger :
    SqlType.int2.integerWidth? = some 2 ∧ Json.Denotes (.string " +00032767\n") 32767 ∧
      encode .int2 (.string " +00032767\n") = .ok (some [0x7F, 0xFF]) := by
  have hdigits : Number.Integer.IsNumeral "00032767".toList := ⟨by simp, by simp⟩
  have hspells : Number.Integer.Spells "+00032767".toList 32767 := .plus hdigits
  have htext : " +00032767\n".toList = [' '] ++ "+00032767".toList ++ ['\n'] := by simp
  have hdenotes : Json.Denotes (.string " +00032767\n") 32767 :=
    .string htext (by simp [Text.AllBlank, Text.isBlank]) hspells
      (by simp [Text.AllBlank, Text.isBlank])
  have hfits : FitsWord 2 32767 := by norm_num [FitsWord]
  have hwidth : SqlType.int2.integerWidth? = some 2 := rfl
  have hword := (encode_integer_iff hwidth (.string " +00032767\n")).1 [0x7F, 0xFF]
  exact ⟨hwidth, hdenotes, hword.mpr ⟨32767, hdenotes, hfits, rfl, by decide⟩⟩

end Binding

end FilterQuery
