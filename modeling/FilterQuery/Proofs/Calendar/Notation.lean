import Mathlib
import FilterQuery.Calendar.Timestamp
import FilterQuery.Proofs.Text.Blank

/-!
# The notation of days

How a day is written at the front of a text is said here by the pieces of the text, without the
readers. `readDay?_eq_some_iff` states that reading finds exactly the days that exist and are
written there.
-/

namespace FilterQuery.Calendar

/-- The text is a number followed by `rest`: the number has `least` to `most` digits, and as many of
them as stand there. -/
def WritesNumber (least most n : Nat) (cs rest : List Char) : Prop :=
  ∃ digits, cs = digits ++ rest ∧ (∀ c ∈ digits, c.isDigit = true) ∧
    least ≤ digits.length ∧ digits.length ≤ most ∧
    (digits.length = most ∨ ∀ c ∈ rest.head?, c.isDigit = false) ∧ n = Text.decimalValue digits

/-- The text is a number of one or two digits after blanks, followed by `rest`. -/
def WritesField (n : Nat) (cs rest : List Char) : Prop :=
  ∃ before text, cs = before ++ text ∧ Text.AllBlank before ∧ WritesNumber 1 2 n text rest

/-- The text is a year after blanks, followed by `rest`. Without a sign it has up to four digits. -/
inductive WritesYear : Int → List Char → List Char → Prop
  | unsigned {n : Nat} {before text rest : List Char} (hbefore : Text.AllBlank before)
      (h : WritesNumber 1 4 n text rest) : WritesYear n (before ++ text) rest
  | positive {n : Nat} {before text rest : List Char} (hbefore : Text.AllBlank before)
      (h : WritesNumber 1 text.length n text rest) : WritesYear n (before ++ '+' :: text) rest
  | negative {n : Nat} {before text rest : List Char} (hbefore : Text.AllBlank before)
      (h : WritesNumber 1 text.length n text rest) :
      WritesYear (-(n : Int)) (before ++ '-' :: text) rest

/-- The text is a year, a month and a day with marks between them, followed by `rest`. -/
def WritesDay (d : Date) (cs rest : List Char) : Prop :=
  ∃ month day, WritesYear d.year cs ('-' :: month) ∧ WritesField d.month month ('-' :: day) ∧
    WritesField d.day day rest

variable {least most n : Nat} {cs rest : List Char} {year : Int} {d : Date}

/-- The digits in front are all that are taken if they are as many as may be, or no more follow. -/
theorem takeWhile_take_eq_iff {digits : List Char} (hdigits : ∀ c ∈ digits, c.isDigit = true)
    (hle : digits.length ≤ most) :
    ((digits ++ rest).take most).takeWhile Char.isDigit = digits ↔
      digits.length = most ∨ ∀ c ∈ rest.head?, c.isDigit = false := by
  rw [List.take_append, List.take_of_length_le hle, List.takeWhile_append_of_pos hdigits,
    List.append_right_eq_self]
  cases hmore : most - digits.length with
  | zero => simp [show digits.length = most by omega]
  | succ more =>
      have hne : digits.length ≠ most := by omega
      cases rest with
      | nil => simp
      | cons c rest => simp [hne]

theorem readNumber?_eq_some_iff :
    readNumber? least most cs = some (n, rest) ↔ WritesNumber least most n cs rest := by
  rw [readNumber?]
  constructor
  · intro h
    rw [Option.ite_none_left_eq_some] at h
    obtain ⟨hleast, hsome⟩ := h
    obtain ⟨digits, hread⟩ : ∃ digits, (cs.take most).takeWhile Char.isDigit = digits := ⟨_, rfl⟩
    obtain ⟨rest, rfl⟩ : digits <+: cs :=
      hread ▸ (List.takeWhile_prefix _).trans (List.take_prefix most cs)
    rw [hread, List.drop_left] at hsome
    rw [hread] at hleast
    have hdigits : ∀ c ∈ digits, c.isDigit = true := by
      rw [← hread]
      exact fun c => List.all_eq_true.mp List.all_takeWhile c
    have hmost : digits.length ≤ most := by
      rw [← hread]
      exact (List.takeWhile_prefix _).length_le.trans (List.length_take_le _ _)
    cases hsome
    exact ⟨digits, rfl, hdigits, Nat.le_of_not_lt hleast, hmost,
      (takeWhile_take_eq_iff hdigits hmost).mp hread, rfl⟩
  · rintro ⟨digits, rfl, hdigits, hleast, hmost, hstop, rfl⟩
    simp only [(takeWhile_take_eq_iff hdigits hmost).mpr hstop, Nat.not_lt.mpr hleast, if_false,
      List.drop_left]

theorem WritesNumber.dropBlanks_eq {before text : List Char} (hbefore : Text.AllBlank before)
    (h : WritesNumber (least + 1) most n text rest) : Text.dropBlanks (before ++ text) = text := by
  obtain ⟨digits, rfl, hdigits, hleast, -⟩ := h
  rw [Text.dropBlanks_append hbefore, Text.dropBlanks_append_of_noneBlank]
  · exact List.ne_nil_of_length_pos (by omega)
  · exact fun c hc => Text.isBlank_of_isDigit (hdigits c hc)

theorem not_writesNumber_cons {c : Char} (hc : c.isDigit = false) :
    ¬WritesNumber (least + 1) most n (c :: cs) rest := by
  rintro ⟨digits, hcs, hdigits, hleast, -⟩
  cases digits with
  | nil => simp at hleast
  | cons d digits =>
      cases hcs
      exact absurd (hdigits c List.mem_cons_self) (by simp [hc])

theorem dropBlanks_append_cons {before : List Char} {c : Char} (hbefore : Text.AllBlank before)
    (hc : Text.isBlank c = false) : Text.dropBlanks (before ++ c :: cs) = c :: cs := by
  rw [Text.dropBlanks_append hbefore]
  exact Text.dropBlanks_eq_self_iff.mpr hc

theorem readField?_eq_some_iff : readField? cs = some (n, rest) ↔ WritesField n cs rest := by
  rw [readField?, readNumber?_eq_some_iff]
  constructor
  · intro h
    obtain ⟨before, hcs, hbefore⟩ := Text.exists_eq_append_dropBlanks cs
    exact ⟨before, _, hcs, hbefore, h⟩
  · rintro ⟨before, text, rfl, hbefore, h⟩
    rwa [h.dropBlanks_eq hbefore]

theorem readYear?_eq_some_iff : readYear? cs = some (year, rest) ↔ WritesYear year cs rest := by
  constructor
  · intro h
    obtain ⟨before, hcs, hbefore⟩ := Text.exists_eq_append_dropBlanks cs
    rw [hcs]
    rw [readYear?] at h
    split at h
    case h_1 text htext =>
      obtain ⟨⟨n, r⟩, hn, he⟩ := Option.map_eq_some_iff.mp h
      cases he
      rw [htext]
      exact .negative hbefore (readNumber?_eq_some_iff.mp hn)
    case h_2 text htext =>
      obtain ⟨⟨n, r⟩, hn, he⟩ := Option.map_eq_some_iff.mp h
      cases he
      rw [htext]
      exact .positive hbefore (readNumber?_eq_some_iff.mp hn)
    case h_3 =>
      obtain ⟨⟨n, r⟩, hn, he⟩ := Option.map_eq_some_iff.mp h
      cases he
      exact .unsigned hbefore (readNumber?_eq_some_iff.mp hn)
  · intro h
    cases h with
    | unsigned hbefore h =>
        rw [readYear?, h.dropBlanks_eq hbefore]
        split
        case h_1 => exact absurd h (not_writesNumber_cons (by decide))
        case h_2 => exact absurd h (not_writesNumber_cons (by decide))
        case h_3 => rw [readNumber?_eq_some_iff.mpr h, Option.map_some]
    | positive hbefore h =>
        rw [readYear?, dropBlanks_append_cons hbefore (by decide)]
        exact Option.map_eq_some_iff.mpr ⟨_, readNumber?_eq_some_iff.mpr h, rfl⟩
    | negative hbefore h =>
        rw [readYear?, dropBlanks_append_cons hbefore (by decide)]
        exact Option.map_eq_some_iff.mpr ⟨_, readNumber?_eq_some_iff.mpr h, rfl⟩

theorem readMark?_eq_some_iff {mark : Char} : readMark? mark cs = some rest ↔ cs = mark :: rest := by
  cases cs with
  | nil => simp [readMark?]
  | cons c cs =>
      by_cases h : c = mark <;> simp [readMark?, h]

theorem Date.ofFields?_eq_some_iff {month day : Nat} :
    Date.ofFields? year month day = some d ↔ d = ⟨year, month, day⟩ ∧ d.IsValid := by
  rw [Date.ofFields?, Option.ite_none_right_eq_some]
  constructor
  · rintro ⟨h, ⟨⟩⟩
    exact ⟨rfl, h⟩
  · rintro ⟨rfl, h⟩
    exact ⟨h, rfl⟩

theorem readDay?_eq_some_iff :
    readDay? cs = some (d, rest) ↔ WritesDay d cs rest ∧ d.IsValid := by
  simp only [readDay?, Option.bind_eq_bind, Option.bind_eq_some_iff, Prod.exists,
    readMark?_eq_some_iff, readField?_eq_some_iff, readYear?_eq_some_iff, Date.ofFields?_eq_some_iff]
  constructor
  · rintro ⟨year, _, hyear, month, rfl, m, _, hmonth, day, rfl, dd, r, hday, date, ⟨rfl, hvalid⟩, he⟩
    cases he
    exact ⟨⟨month, day, hyear, hmonth, hday⟩, hvalid⟩
  · rintro ⟨⟨month, day, hyear, hmonth, hday⟩, hvalid⟩
    exact ⟨_, _, hyear, month, rfl, _, _, hmonth, day, rfl, _, _, hday, d, ⟨rfl, hvalid⟩, rfl⟩

end FilterQuery.Calendar
