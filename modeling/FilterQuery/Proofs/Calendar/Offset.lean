import FilterQuery.Proofs.Calendar.Notation

/-!
# Days, timestamps and instants

What the three readers make of one text. A timestamp is a day, alone or with a time of day behind
it; an instant is a day and a time of day with an offset behind them. `Timestamp.read?_eq_none`
states that no text is read as both a timestamp and an instant: the fields of an instant are read by
a timestamp as well, and then the offset is left over.
-/

namespace FilterQuery.Calendar

variable {cs rest text : List Char} {n : Nat} {d : Date} {t : Timestamp} {i : Instant}

theorem Date.read?_eq_some_iff : Date.read? cs = some d ↔ readDay? cs = some (d, []) := by
  rw [Date.read?]
  split
  case h_1 date h => simp [h]
  case h_2 h =>
    constructor
    · exact nofun
    · intro hday
      exact absurd hday (h d)

/-- A bare day means its midnight. -/
theorem Timestamp.read?_eq_some_iff :
    Timestamp.read? cs = some t ↔ ∃ rest, readDay? cs = some (t.date, rest) ∧
      (rest = [] ∧ t.nanoseconds = 0 ∨
        rest ≠ [] ∧ readTime? (dropMark rest) = some (t.nanoseconds, [])) := by
  rw [Timestamp.read?]
  constructor
  · intro h
    obtain ⟨⟨date, rest⟩, hday, h⟩ := Option.bind_eq_some_iff.mp h
    dsimp only at h
    split at h
    case isTrue hrest =>
      cases h
      exact ⟨rest, hday, .inl ⟨List.isEmpty_iff.mp hrest, rfl⟩⟩
    case isFalse hrest =>
      obtain ⟨⟨time, behind⟩, htime, h⟩ := Option.bind_eq_some_iff.mp h
      cases behind with
      | nil =>
          cases h
          exact ⟨rest, hday, .inr ⟨mt List.isEmpty_iff.mpr hrest, htime⟩⟩
      | cons c behind => cases h
  · rintro ⟨rest, hday, hrest⟩
    refine Option.bind_eq_some_iff.mpr ⟨(t.date, rest), hday, ?_⟩
    obtain ⟨rfl, hzero⟩ | ⟨hne, htime⟩ := hrest
    · rw [← hzero]
      rfl
    · refine (if_neg (mt List.isEmpty_iff.mp hne)).trans ?_
      exact Option.bind_eq_some_iff.mpr ⟨(t.nanoseconds, []), htime, rfl⟩

/-- A text that is a day and nothing else is the timestamp of its midnight. -/
theorem Timestamp.read?_of_day (h : readDay? cs = some (d, [])) :
    Timestamp.read? cs = some ⟨d, 0⟩ :=
  Timestamp.read?_eq_some_iff.mpr ⟨[], h, .inl ⟨rfl, rfl⟩⟩

theorem readTime?_eq_some_iff {time : Nat} :
    readTime? cs = some (time, rest) ↔
      ∃ hour cs₁ minute cs₂ second cs₃ nanosecond, readField? cs = some (hour, ':' :: cs₁) ∧
        readField? cs₁ = some (minute, ':' :: cs₂) ∧ readField? cs₂ = some (second, cs₃) ∧
        readFraction? cs₃ = some (nanosecond, rest) ∧
        timeOfDay? hour minute second nanosecond = some time := by
  simp only [readTime?, Option.bind_eq_bind, Option.bind_eq_some_iff, Prod.exists,
    readMark?_eq_some_iff]
  constructor
  · rintro ⟨hour, _, hhour, cs₁, rfl, minute, _, hminute, cs₂, rfl, second, cs₃, hsecond,
      nanosecond, behind, hfraction, time, htime, h⟩
    cases h
    exact ⟨hour, cs₁, minute, cs₂, second, cs₃, nanosecond, hhour, hminute, hsecond, hfraction,
      htime⟩
  · rintro ⟨hour, cs₁, minute, cs₂, second, cs₃, nanosecond, hhour, hminute, hsecond, hfraction,
      htime⟩
    exact ⟨hour, _, hhour, cs₁, rfl, minute, _, hminute, cs₂, rfl, second, cs₃, hsecond,
      nanosecond, rest, hfraction, time, htime, rfl⟩

/-- Two digits are a field. -/
theorem readField?_of_readNumber? (h : readNumber? 2 2 cs = some (n, rest)) :
    readField? cs = some (n, rest) := by
  obtain ⟨digits, hcs, hdigits, hleast, hstop⟩ := readNumber?_eq_some_iff.mp h
  exact readField?_eq_some_iff.mpr ⟨[], cs, rfl, nofun, digits, hcs, hdigits, by omega, hstop⟩

/-- Four digits are a year. -/
theorem readYear?_of_readNumber? (h : readNumber? 4 4 cs = some (n, rest)) :
    readYear? cs = some ((n : Int), rest) := by
  obtain ⟨digits, hcs, hdigits, hleast, hstop⟩ := readNumber?_eq_some_iff.mp h
  have hyear : WritesNumber 1 4 n cs rest := ⟨digits, hcs, hdigits, by omega, hstop⟩
  exact readYear?_eq_some_iff.mpr (@WritesYear.unsigned n [] cs rest nofun hyear)

/-- A time of day and an offset are a time of day for the other notation as well. -/
theorem exists_of_readClock? {time : Nat} {offset : Int} (h : readClock? cs = some (time, offset)) :
    ∃ rest, readTime? cs = some (time, rest) ∧ readOffset? rest = some (offset, []) := by
  rw [readClock?] at h
  obtain ⟨⟨hour, cs₁⟩, hhour, h⟩ := Option.bind_eq_some_iff.mp h
  obtain ⟨cs₂, hmark, h⟩ := Option.bind_eq_some_iff.mp h
  obtain ⟨⟨minute, cs₃⟩, hminute, h⟩ := Option.bind_eq_some_iff.mp h
  obtain ⟨cs₄, hmark', h⟩ := Option.bind_eq_some_iff.mp h
  obtain ⟨⟨second, cs₅⟩, hsecond, h⟩ := Option.bind_eq_some_iff.mp h
  obtain ⟨⟨nanosecond, rest⟩, hfraction, h⟩ := Option.bind_eq_some_iff.mp h
  obtain ⟨⟨offset', behind⟩, hoffset, h⟩ := Option.bind_eq_some_iff.mp h
  obtain ⟨hbehind, h⟩ := Option.ite_none_right_eq_some.mp h
  obtain ⟨time', htime, h⟩ := Option.bind_eq_some_iff.mp h
  cases h
  rw [List.isEmpty_iff.mp hbehind] at hoffset
  rw [readMark?_eq_some_iff.mp hmark] at hhour
  rw [readMark?_eq_some_iff.mp hmark'] at hminute
  refine ⟨rest, readTime?_eq_some_iff.mpr ?_, hoffset⟩
  exact ⟨hour, cs₂, minute, cs₄, second, cs₅, nanosecond, readField?_of_readNumber? hhour,
    readField?_of_readNumber? hminute, readField?_of_readNumber? hsecond, hfraction, htime⟩

/-- The character is a mark between the day and the time of an instant. -/
def IsMark (c : Char) : Prop := c = 'T' ∨ c = 't' ∨ c = ' '

theorem readClockMark?_eq_some_iff :
    readClockMark? cs = some rest ↔ ∃ mark, cs = mark :: rest ∧ IsMark mark := by
  constructor
  · intro h
    rw [readClockMark?.eq_def] at h
    split at h
    case h_1 => exact ⟨'T', congrArg _ (Option.some.inj h), .inl rfl⟩
    case h_2 => exact ⟨'t', congrArg _ (Option.some.inj h), .inr (.inl rfl)⟩
    case h_3 => exact ⟨' ', congrArg _ (Option.some.inj h), .inr (.inr rfl)⟩
    case h_4 => cases h
  · rintro ⟨mark, rfl, rfl | rfl | rfl⟩
    · rfl
    · rfl
    · rfl

/-- An instant is a day, a mark, a time of day and an offset. -/
theorem Instant.exists_of_read? (h : Instant.read? cs = some i) :
    ∃ mark text rest, readDay? cs = some (i.civil.date, mark :: text) ∧ IsMark mark ∧
      readTime? text = some (i.civil.nanoseconds, rest) ∧ readOffset? rest = some (i.offset, []) := by
  rw [Instant.read?] at h
  obtain ⟨⟨year, cs₁⟩, hyear, h⟩ := Option.bind_eq_some_iff.mp h
  obtain ⟨cs₂, hmark, h⟩ := Option.bind_eq_some_iff.mp h
  obtain ⟨⟨month, cs₃⟩, hmonth, h⟩ := Option.bind_eq_some_iff.mp h
  obtain ⟨cs₄, hmark', h⟩ := Option.bind_eq_some_iff.mp h
  obtain ⟨⟨day, cs₅⟩, hday, h⟩ := Option.bind_eq_some_iff.mp h
  obtain ⟨date, hdate, h⟩ := Option.bind_eq_some_iff.mp h
  obtain ⟨text, hclockMark, h⟩ := Option.bind_eq_some_iff.mp h
  obtain ⟨⟨time, offset⟩, hclock, h⟩ := Option.bind_eq_some_iff.mp h
  cases h
  obtain ⟨mark, rfl, hisMark⟩ := readClockMark?_eq_some_iff.mp hclockMark
  obtain ⟨rest, htime, hoffset⟩ := exists_of_readClock? hclock
  rw [readMark?_eq_some_iff.mp hmark] at hyear
  rw [readMark?_eq_some_iff.mp hmark'] at hmonth
  obtain ⟨hdate, hvalid⟩ := Date.ofFields?_eq_some_iff.mp hdate
  refine ⟨mark, text, rest, readDay?_eq_some_iff.mpr ⟨?_, hvalid⟩, hisMark, htime, hoffset⟩
  rw [hdate]
  exact ⟨cs₂, cs₄, readYear?_eq_some_iff.mp (readYear?_of_readNumber? hyear),
    readField?_eq_some_iff.mp (readField?_of_readNumber? hmonth),
    readField?_eq_some_iff.mp (readField?_of_readNumber? hday)⟩

/-- Blanks in front of a time of day are passed over. -/
theorem readTime?_space (text : List Char) : readTime? (' ' :: text) = readTime? text := rfl

/-- Only the upper-case mark is dropped. -/
theorem readTime?_of_letter (text : List Char) : readTime? ('t' :: text) = none := by
  rw [Option.eq_none_iff_forall_ne_some]
  rintro ⟨time, rest⟩ h
  obtain ⟨hour, cs₁, _, _, _, _, _, hhour, -⟩ := readTime?_eq_some_iff.mp h
  exact not_writesNumber_cons (by decide) (readNumber?_eq_some_iff.mp hhour)

/-- A text with an offset is no timestamp. -/
theorem Timestamp.read?_eq_none (h : Instant.read? cs = some i) : Timestamp.read? cs = none := by
  obtain ⟨mark, text, rest, hday, hmark, htime, hoffset⟩ := Instant.exists_of_read? h
  rw [Option.eq_none_iff_forall_ne_some]
  intro t ht
  obtain ⟨rest', hday', ⟨rfl, -⟩ | ⟨-, htime'⟩⟩ := Timestamp.read?_eq_some_iff.mp ht
  · exact absurd (hday.symm.trans hday') (by simp)
  obtain ⟨-, hrest⟩ := Prod.mk.inj (Option.some.inj (hday.symm.trans hday'))
  subst hrest
  have hread : readTime? text = some (t.nanoseconds, []) := by
    obtain rfl | rfl | rfl := hmark
    · exact htime'
    · exact absurd htime' (by simp [dropMark, readTime?_of_letter])
    · exact (readTime?_space text).symm.trans htime'
  -- the time of day is followed by the offset, which is not empty
  obtain ⟨-, hnil⟩ := Prod.mk.inj (Option.some.inj (htime.symm.trans hread))
  subst hnil
  cases hoffset

end FilterQuery.Calendar
