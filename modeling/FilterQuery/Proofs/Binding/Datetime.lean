import FilterQuery.Proofs.Binding.Bytes
import FilterQuery.Proofs.Calendar.Days
import FilterQuery.Proofs.Calendar.Offset

/-!
# Dates and times of one text

A text can be bound as a timestamp, as a timestamp with a time zone and as a date, and each of the
three tries the readers in an order of its own. `Binding.encode_datetimes_agree` states that they
agree on the texts that are timestamps: the order does not matter there.
-/

namespace FilterQuery.Binding

open Calendar (Date Timestamp Instant WritesDay)

/-- The bytes are those of a date: a word of four bytes that spells the number of the day. -/
def SpellsDay (bs : List UInt8) (d : Date) : Prop := bs.length = 4 ∧ intValue bs = d.daysSince2000

/-- The bytes are those of a timestamp: a word of eight bytes that spells the microseconds from the
midnight at which the year 2000 began to the midnight at which the day begins. -/
def SpellsMidnight (bs : List UInt8) (d : Date) : Prop :=
  bs.length = 8 ∧ intValue bs = d.daysSince2000 * (24 * 60 * 60 * 1000000)

variable {s : String} {bs : List UInt8} {n : Int} {d d' : Date}

/-- The word of a day stands for this day only. -/
theorem spellsDay_twosComplement_iff (h : d.IsValid) (h' : d'.IsValid) :
    SpellsDay (twosComplement 4 d.daysSince2000) d' ↔ d' = d := by
  have hdays := abs_lt.mp h.abs_daysSince2000_lt
  have hfits : FitsWord 4 d.daysSince2000 := by
    norm_num [FitsWord] at hdays ⊢
    omega
  obtain ⟨hlength, hvalue⟩ := (eq_twosComplement_iff (by decide) hfits).mp rfl
  constructor
  · intro hd'
    exact h'.eq_of_daysSince2000_eq h (hd'.2.symm.trans hvalue)
  · rintro rfl
    exact ⟨hlength, hvalue⟩

theorem microsecondsSince2000_midnight (d : Date) :
    Timestamp.microsecondsSince2000 ⟨d, 0⟩ 0 = d.daysSince2000 * (24 * 60 * 60 * 1000000) := by
  have hnanoseconds : Timestamp.nanosecondsSince2000 ⟨d, 0⟩ - 0 * 1000000000 =
      d.daysSince2000 * (24 * 60 * 60 * 1000000) * 1000 := by
    simp only [Timestamp.nanosecondsSince2000]
    omega
  rw [Timestamp.microsecondsSince2000, hnanoseconds]
  exact Int.mul_tdiv_cancel _ (by decide)

theorem spellsMidnight_twosComplement (h : d.IsValid) :
    SpellsMidnight (twosComplement 8 (Timestamp.microsecondsSince2000 ⟨d, 0⟩ 0)) d := by
  have hdays := abs_lt.mp h.abs_daysSince2000_lt
  rw [microsecondsSince2000_midnight]
  have hfits : FitsWord 8 (d.daysSince2000 * (24 * 60 * 60 * 1000000)) := by
    norm_num [FitsWord] at hdays ⊢
    omega
  exact (eq_twosComplement_iff (by decide) hfits).mp rfl

theorem orDatetime_eq_ok_iff {α : Type} {result : Option α} {a : α} :
    orDatetime result = .ok a ↔ result = some a := by
  cases result <;> simp [orDatetime]

theorem toTimestamp_eq_ok_iff :
    toTimestamp (.string s) = .ok n ↔ ∃ t, Timestamp.read? (Text.trim s.toList) = some t ∧
      t.microsecondsSince2000 0 = n := by
  change (orDatetime (Timestamp.read? (Text.trim s.toList)) >>= fun t =>
    .ok (t.microsecondsSince2000 0)) = _ ↔ _
  simp only [Outcome.bind_eq_ok_iff, orDatetime_eq_ok_iff, Except.ok.injEq]

/-- A timestamp is no instant, so it is taken to be in UTC. -/
theorem toInstant_of_toTimestamp (h : toTimestamp (.string s) = .ok n) :
    toInstant (.string s) = .ok n := by
  obtain ⟨t, ht, rfl⟩ := toTimestamp_eq_ok_iff.mp h
  have hnone : Instant.read? (Text.trim s.toList) = none := by
    rw [Option.eq_none_iff_forall_ne_some]
    intro i hi
    rw [Timestamp.read?_eq_none hi] at ht
    cases ht
  refine Outcome.bind_eq_ok_iff.mpr ⟨Text.trim s.toList, rfl, ?_⟩
  rw [hnone]
  exact h

/-- A text is a date exactly if it is a timestamp, although a day alone is tried before. -/
theorem toDate_eq_ok_iff :
    toDate (.string s) = .ok n ↔ ∃ t, Timestamp.read? (Text.trim s.toList) = some t ∧
      t.date.daysSince2000 = n := by
  rw [toDate, toDatetimeText, Outcome.bind_eq_ok_iff]
  simp only [Except.ok.injEq, exists_eq_left']
  split
  case h_1 d hd =>
    rw [Timestamp.read?_of_day (Date.read?_eq_some_iff.mp hd)]
    simp [pure, Except.pure]
  case h_2 =>
    simp only [Outcome.bind_eq_ok_iff, orDatetime_eq_ok_iff, pure, Except.pure, Except.ok.injEq]

/-- A text is bound as a word if it is read as a number, and the word is that of the number. -/
theorem encode_word_eq_some_iff {type : SqlType} {width : Nat} {read : Except Problem Int}
    (hbytes : bytes (.string s) type = read >>= fun n => .ok (twosComplement width n)) :
    encode type (.string s) = .ok (some bs) ↔ ∃ n, read = .ok n ∧ twosComplement width n = bs := by
  have hnull : Json.string s ≠ .null := by simp
  rw [encode_eq_some_iff hnull, hbytes, Outcome.bind_eq_ok_iff]
  simp only [Except.ok.injEq]

theorem encode_timestamp_eq_some_iff :
    encode .timestamp (.string s) = .ok (some bs) ↔
      ∃ n, toTimestamp (.string s) = .ok n ∧ twosComplement 8 n = bs :=
  encode_word_eq_some_iff rfl

theorem encode_timestamptz_eq_some_iff :
    encode .timestamptz (.string s) = .ok (some bs) ↔
      ∃ n, toInstant (.string s) = .ok n ∧ twosComplement 8 n = bs :=
  encode_word_eq_some_iff rfl

theorem encode_date_eq_some_iff :
    encode .date (.string s) = .ok (some bs) ↔
      ∃ n, toDate (.string s) = .ok n ∧ twosComplement 4 n = bs :=
  encode_word_eq_some_iff rfl

/-- The three bindings agree on a text without an offset. What is bound as a timestamp is bound as
the same bytes with a time zone, and as a date it is bound as the day written at its front and no
other; what is bound as a date is bound as a timestamp; a day alone is bound as the timestamp of its
midnight. -/
theorem encode_datetimes_agree (s : String) :
    (∀ bs, encode .timestamp (.string s) = .ok (some bs) →
      encode .timestamptz (.string s) = .ok (some bs) ∧
        ∃ d rest days, WritesDay d (Text.trim s.toList) rest ∧ d.IsValid ∧
          encode .date (.string s) = .ok (some days) ∧
            ∀ d', d'.IsValid → (SpellsDay days d' ↔ d' = d)) ∧
      ((∃ days, encode .date (.string s) = .ok (some days)) →
        ∃ bs, encode .timestamp (.string s) = .ok (some bs)) ∧
      ∀ d, WritesDay d (Text.trim s.toList) [] → d.IsValid →
        ∃ bs, encode .timestamp (.string s) = .ok (some bs) ∧ SpellsMidnight bs d := by
  refine ⟨?_, ?_, ?_⟩
  · intro bs hbs
    obtain ⟨n, hn, hword⟩ := encode_timestamp_eq_some_iff.mp hbs
    obtain ⟨t, ht, -⟩ := toTimestamp_eq_ok_iff.mp hn
    obtain ⟨rest, hday, -⟩ := Timestamp.read?_eq_some_iff.mp ht
    obtain ⟨hwrites, hvalid⟩ := Calendar.readDay?_eq_some_iff.mp hday
    have hdate : toDate (.string s) = .ok t.date.daysSince2000 :=
      toDate_eq_ok_iff.mpr ⟨t, ht, rfl⟩
    refine ⟨encode_timestamptz_eq_some_iff.mpr ⟨n, toInstant_of_toTimestamp hn, hword⟩, ?_⟩
    exact ⟨t.date, rest, _, hwrites, hvalid, encode_date_eq_some_iff.mpr ⟨_, hdate, rfl⟩,
      fun d' hvalid' => spellsDay_twosComplement_iff hvalid hvalid'⟩
  · rintro ⟨days, hdays⟩
    obtain ⟨n, hn, -⟩ := encode_date_eq_some_iff.mp hdays
    obtain ⟨t, ht, -⟩ := toDate_eq_ok_iff.mp hn
    have htimestamp : toTimestamp (.string s) = .ok (t.microsecondsSince2000 0) :=
      toTimestamp_eq_ok_iff.mpr ⟨t, ht, rfl⟩
    exact ⟨_, encode_timestamp_eq_some_iff.mpr ⟨_, htimestamp, rfl⟩⟩
  · intro d hwrites hvalid
    have hday := Calendar.readDay?_eq_some_iff.mpr ⟨hwrites, hvalid⟩
    have htimestamp : toTimestamp (.string s) =
        .ok (Timestamp.microsecondsSince2000 ⟨d, 0⟩ 0) :=
      toTimestamp_eq_ok_iff.mpr ⟨⟨d, 0⟩, Timestamp.read?_of_day hday, rfl⟩
    exact ⟨_, encode_timestamp_eq_some_iff.mpr ⟨_, htimestamp, rfl⟩,
      spellsMidnight_twosComplement hvalid⟩

/-- A leap second ends on the next day, and yet the date is the day written. -/
theorem encode_leapSecond :
    encode .timestamptz (.string " 2024-02-29T23:59:60.5 ") =
        .ok (some [0x00, 0x02, 0xB5, 0x8C, 0xD3, 0x6B, 0x61, 0x20]) ∧
      (∃ rest, WritesDay ⟨2024, 2, 29⟩ (Text.trim " 2024-02-29T23:59:60.5 ".toList) rest) ∧
      ∃ bs, encode .timestamp (.string "2024-2-29") = .ok (some bs) ∧
        SpellsMidnight bs ⟨2024, 2, 29⟩ := by
  have hvalid : Date.IsValid ⟨2024, 2, 29⟩ := by decide
  have hword : encode .timestamp (.string " 2024-02-29T23:59:60.5 ") =
      .ok (some [0x00, 0x02, 0xB5, 0x8C, 0xD3, 0x6B, 0x61, 0x20]) := rfl
  have hdays : encode .date (.string " 2024-02-29T23:59:60.5 ") =
      .ok (some [0x00, 0x00, 0x22, 0x79]) := rfl
  have hspells : SpellsDay [0x00, 0x00, 0x22, 0x79] ⟨2024, 2, 29⟩ := ⟨rfl, by decide⟩
  have hbare : WritesDay ⟨2024, 2, 29⟩ (Text.trim "2024-2-29".toList) [] :=
    (Calendar.readDay?_eq_some_iff.mp rfl).1
  obtain ⟨hzone, d, rest, days, hwrites, -, hdate, hday⟩ :=
    (encode_datetimes_agree " 2024-02-29T23:59:60.5 ").1 _ hword
  cases hdate.symm.trans hdays
  rw [← (hday _ hvalid).mp hspells] at hwrites
  exact ⟨hzone, ⟨rest, hwrites⟩, (encode_datetimes_agree "2024-2-29").2.2 _ hbare hvalid⟩

end FilterQuery.Binding
