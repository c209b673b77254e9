import Mathlib
import FilterQuery.Proofs.Identifier

/-!
# The grammar of identifiers

The language of identifiers is given here without their reader: a bare part matches the pattern
`[A-Za-z_][A-Za-z0-9_$]*`, a quoted part is any text that is not empty and has no NUL in it, and
the written parts stand one behind the other with dots between them.
`Identifier.parse_eq_ok_iff_sql_eq` states that reading gives parts exactly for the texts that
these parts write, so reading and writing undo each other and nothing else is accepted.
-/

namespace FilterQuery.Identifier

/-- The words of one character from a set. -/
def oneOf (s : Set Char) : Language Char := {w | ∃ c ∈ s, w = [c]}

/-- The letters of ASCII. -/
def letters : Set Char := Set.Icc 'A' 'Z' ∪ Set.Icc 'a' 'z'

/-- The pattern `[A-Za-z_][A-Za-z0-9_$]*`. -/
def barePattern : Language Char :=
  oneOf (letters ∪ {'_'}) * KStar.kstar (oneOf (letters ∪ Set.Icc '0' '9' ∪ {'_', '$'}))

namespace Part

/-- What a part may be. -/
def IsAllowed : Part → Prop
  | bare name => name.toList ∈ barePattern
  | quoted name => name ≠ "" ∧ '\x00' ∉ name.toList

/-- How a part is written: in quotes, every quote stands there twice. -/
def written : Part → String
  | bare name => name
  | quoted name =>
    "\"" ++ String.ofList (name.toList.flatMap fun c => if c = '"' then ['"', '"'] else [c]) ++ "\""

end Part

theorem mem_kstar_oneOf_iff {s : Set Char} {w : List Char} :
    w ∈ KStar.kstar (oneOf s) ↔ ∀ c ∈ w, c ∈ s := by
  rw [Language.mem_kstar]
  constructor
  · rintro ⟨words, rfl, hwords⟩ c hc
    obtain ⟨word, hword, hc⟩ := List.mem_flatten.mp hc
    obtain ⟨d, hd, rfl⟩ := hwords word hword
    rwa [List.mem_singleton.mp hc]
  · intro h
    refine ⟨w.map fun c => [c], by simp [← List.flatMap_def], ?_⟩
    intro word hword
    obtain ⟨c, hc, rfl⟩ := List.mem_map.mp hword
    exact ⟨c, h c hc, rfl⟩

theorem mem_letters_iff {c : Char} : c ∈ letters ↔ c.isAlpha = true := by
  simp only [letters, Set.mem_union, Set.mem_Icc, Char.isAlpha, Char.isUpper, Char.isLower,
    Bool.or_eq_true, Bool.and_eq_true, decide_eq_true_eq, Char.le_def]

theorem isStart_iff {c : Char} : isStart c = true ↔ c ∈ letters ∪ {'_'} := by
  simp [isStart, mem_letters_iff, or_comm]

theorem isInner_iff {c : Char} :
    isInner c = true ↔ c ∈ letters ∪ Set.Icc '0' '9' ∪ {'_', '$'} := by
  have hdigit : c ∈ Set.Icc '0' '9' ↔ c.isDigit = true := by
    simp only [Set.mem_Icc, Char.isDigit, Bool.and_eq_true, decide_eq_true_eq, Char.le_def]
  simp only [isInner, Char.isAlphanum, Set.mem_union, mem_letters_iff, hdigit, Bool.or_eq_true,
    beq_iff_eq, Set.mem_insert_iff, Set.mem_singleton_iff]
  tauto

theorem mem_barePattern_iff {w : List Char} :
    w ∈ barePattern ↔
      ∃ c inner, w = c :: inner ∧ isStart c = true ∧ ∀ d ∈ inner, isInner d = true := by
  simp only [isStart_iff, isInner_iff, ← mem_kstar_oneOf_iff]
  rw [barePattern, Language.mem_mul]
  constructor
  · rintro ⟨_, ⟨c, hc, rfl⟩, inner, hinner, rfl⟩
    exact ⟨c, inner, rfl, hc, hinner⟩
  · rintro ⟨c, inner, rfl, hc, hinner⟩
    exact ⟨[c], ⟨c, hc, rfl⟩, inner, hinner, rfl⟩

namespace Part

theorem isAllowed_iff {p : Part} : p.IsAllowed ↔ p.IsWellFormed := by
  cases p with
  | bare name => exact mem_barePattern_iff
  | quoted name => simp [IsAllowed, IsWellFormed]

theorem doubled_eq_flatMap (cs : List Char) :
    doubled cs = cs.flatMap fun c => if c = '"' then ['"', '"'] else [c] := by
  induction cs with
  | nil => rfl
  | cons c cs ih =>
      by_cases hc : c = '"' <;> simp [doubled, hc, ih]

theorem toList_written (p : Part) : p.written.toList = p.chars := by
  cases p with
  | bare name => rfl
  | quoted name => simp [chars, written, doubled_eq_flatMap]

end Part

theorem isWellFormed_iff {ps : List Part} :
    IsWellFormed ps ↔ ps ≠ [] ∧ ∀ p ∈ ps, p.IsAllowed := by
  simp only [IsWellFormed, Part.isAllowed_iff]

theorem joinedChars_eq_intercalate (ps : List Part) :
    joinedChars ps = ['.'].intercalate (ps.map Part.chars) := by
  induction ps with
  | nil => rfl
  | cons p ps ih =>
      cases ps with
      | nil => simp [joinedChars]
      | cons q ps =>
          rw [joinedChars_cons p (List.cons_ne_nil q ps), ih]
          simp [List.intercalate]

/-- Parts are written one behind the other with dots between them. -/
theorem sql_eq_intercalate (ps : List Part) : sql ⟨ps⟩ = ".".intercalate (ps.map Part.written) := by
  apply String.toList_injective
  rw [sql, String.toList_ofList, joinedChars_eq_intercalate, String.toList_intercalate,
    List.map_map]
  exact congrArg _ (List.map_congr_left fun p _ => (Part.toList_written p).symm)

theorem parse_eq_ok_iff_isWellFormed {s : String} {ps : List Part} :
    parse s = .ok ⟨ps⟩ ↔ IsWellFormed ps ∧ sql ⟨ps⟩ = s := by
  constructor
  · intro h
    exact (sql_of_parse h).symm
  · rintro ⟨hwell, rfl⟩
    exact parse_sql hwell

/-- Reading a text gives parts exactly when there is a part, every part is allowed and the text is
what the parts write. So what was read is written as it was, what is written is read back, and a
text is accepted only if some allowed parts write it. -/
theorem parse_eq_ok_iff_sql_eq :
    (∀ (s : String) (ps : List Part),
        parse s = .ok ⟨ps⟩ ↔ ps ≠ [] ∧ (∀ p ∈ ps, p.IsAllowed) ∧ sql ⟨ps⟩ = s) ∧
      (∀ ps, sql ⟨ps⟩ = ".".intercalate (ps.map Part.written)) ∧
      (∀ s i, parse s = .ok i → i.sql = s ∧ parse i.sql = .ok i) ∧
      (∀ ps, ps ≠ [] → (∀ p ∈ ps, p.IsAllowed) → parse (sql ⟨ps⟩) = .ok ⟨ps⟩) ∧
      ∀ s, IsText s ↔ ∃ ps, ps ≠ [] ∧ (∀ p ∈ ps, p.IsAllowed) ∧ sql ⟨ps⟩ = s := by
  have hparse (s : String) (ps : List Part) :
      parse s = .ok ⟨ps⟩ ↔ ps ≠ [] ∧ (∀ p ∈ ps, p.IsAllowed) ∧ sql ⟨ps⟩ = s := by
    rw [parse_eq_ok_iff_isWellFormed, isWellFormed_iff, and_assoc]
  refine ⟨hparse, sql_eq_intercalate, ?_, ?_, ?_⟩
  · intro s i h
    obtain ⟨hsql, -⟩ := sql_of_parse h
    exact ⟨hsql, by rwa [hsql]⟩
  · intro ps hne hallowed
    exact (hparse _ ps).mpr ⟨hne, hallowed, rfl⟩
  · intro s
    constructor
    · rintro ⟨⟨ps⟩, h⟩
      exact ⟨ps, (hparse s ps).mp h⟩
    · rintro ⟨ps, h⟩
      exact ⟨⟨ps⟩, (hparse s ps).mpr h⟩

/-- A column of a table whose name has quotes in it. -/
def entryData : List Part := [.bare "public", .quoted "Entry \"Data\"", .bare "data"]

theorem isAllowed_of_mem_entryData : ∀ p ∈ entryData, p.IsAllowed := by
  intro p hp
  have hcases : p = .bare "public" ∨ p = .quoted "Entry \"Data\"" ∨ p = .bare "data" := by
    simpa [entryData] using hp
  rcases hcases with rfl | rfl | rfl
  · exact mem_barePattern_iff.mpr ⟨'p', "ublic".toList, rfl, rfl, List.all_eq_true.mp rfl⟩
  · exact ⟨by decide, by decide⟩
  · exact mem_barePattern_iff.mpr ⟨'d', "ata".toList, rfl, rfl, List.all_eq_true.mp rfl⟩

/-- The column is written with its inner quotes doubled, and it is read from that. -/
theorem parse_entryData :
    parse "public.\"Entry \"\"Data\"\"\".data" = .ok ⟨entryData⟩ ∧
      sql ⟨entryData⟩ = "public.\"Entry \"\"Data\"\"\".data" ∧
      parse (sql ⟨entryData⟩) = .ok ⟨entryData⟩ := by
  have hread : parse "public.\"Entry \"\"Data\"\"\".data" = .ok ⟨entryData⟩ := rfl
  obtain ⟨-, -, hwritten, hread', -⟩ := parse_eq_ok_iff_sql_eq
  exact ⟨hread, (hwritten _ _ hread).1,
    hread' entryData (List.cons_ne_nil _ _) isAllowed_of_mem_entryData⟩

end FilterQuery.Identifier
