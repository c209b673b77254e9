import Mathlib
import FilterQuery.Proofs.Identifier

/-!
# Spellings of a name

The database reads a bare part in lower case and a quoted part as it stands, so a name may be
spelled in several ways. The canonical spelling has a part bare if it can be and quoted otherwise.
`sql_canonical_eq_iff` states that two identifiers stand for one name exactly if they are the same
text in canonical spelling.
-/

namespace FilterQuery.Identifier

namespace Part

/-- A text with the letters of ASCII in lower case. -/
def lowered (name : String) : String := String.ofList (name.toList.map Char.toLower)

/-- The name that a part stands for: a bare part in lower case, a quoted part as it stands. -/
def folded : Part → String
  | bare name => lowered name
  | quoted name => name

/-- The name stands for itself when it is written bare. -/
def isPlain (name : String) : Bool :=
  match name.toList with
  | [] => false
  | c :: inner => isStart c && inner.all isInner && lowered name == name

/-- The canonical part for a name. -/
def ofName (name : String) : Part := if isPlain name then bare name else quoted name

/-- The canonical spelling of a part. -/
def canonical (p : Part) : Part := ofName p.folded

theorem isPlain_iff {name : String} :
    isPlain name = true ↔ (bare name).IsWellFormed ∧ lowered name = name := by
  rw [isPlain, IsWellFormed]
  cases name.toList with
  | nil => simp
  | cons c inner => simp [and_assoc]

theorem folded_ofName (name : String) : (ofName name).folded = name := by
  rw [ofName]
  cases h : isPlain name with
  | true => exact (isPlain_iff.mp h).2
  | false => rfl

theorem ofName_injective : Function.Injective ofName := by
  intro name name' h
  rw [← folded_ofName name, h, folded_ofName]

theorem isInner_toLower {c : Char} (h : isInner c = true) : isInner c.toLower = true := by
  cases halpha : c.isAlpha with
  | true => simp [isInner, Char.isAlphanum, halpha]
  | false =>
      have hupper : ¬c.isUpper = true := by
        intro hupper
        simp [Char.isAlpha, hupper] at halpha
      rwa [Char.toLower_eq_of_not_isUpper hupper]

/-- The name of a part may be quoted. -/
theorem IsWellFormed.quoted_folded {p : Part} (h : p.IsWellFormed) :
    (quoted p.folded).IsWellFormed := by
  cases p with
  | bare name =>
      have htoList : (lowered name).toList = name.toList.map Char.toLower := String.toList_ofList
      constructor
      · obtain ⟨c, inner, he, -, -⟩ := h
        simp [folded, htoList, he]
      · rw [folded, htoList, List.mem_map]
        rintro ⟨c, hc, hnul⟩
        exact (ne_of_isInner (isInner_toLower (isInner_of_mem h hc))).2.2 hnul
  | quoted name => exact h

theorem IsWellFormed.canonical {p : Part} (h : p.IsWellFormed) : p.canonical.IsWellFormed := by
  rw [Part.canonical, ofName]
  cases hplain : isPlain p.folded with
  | true => exact (isPlain_iff.mp hplain).1
  | false => exact h.quoted_folded

end Part

/-- The name that an identifier stands for, part by part. -/
def names (i : Identifier) : List String := i.parts.map Part.folded

/-- The canonical spelling of an identifier. -/
def canonical (i : Identifier) : Identifier := ⟨i.parts.map Part.canonical⟩

variable {i j : Identifier}

theorem canonical_eq_iff : i.canonical = j.canonical ↔ i.names = j.names := by
  have hparts (i : Identifier) : i.parts.map Part.canonical = i.names.map Part.ofName := by
    rw [names, List.map_map]
    rfl
  rw [canonical, canonical, mk.injEq, hparts, hparts]
  exact (List.map_injective_iff.mpr Part.ofName_injective).eq_iff

theorem isWellFormed_canonical (h : IsWellFormed i.parts) : IsWellFormed i.canonical.parts := by
  refine ⟨?_, ?_⟩
  · simpa [canonical] using h.1
  · intro p hp
    obtain ⟨q, hq, rfl⟩ := List.mem_map.mp hp
    exact (h.2 q hq).canonical

theorem parse_canonical (h : IsWellFormed i.parts) : parse i.canonical.sql = .ok i.canonical :=
  parse_sql (isWellFormed_canonical h)

/-- Canonical spellings are the same text exactly if they stand for one name. -/
theorem sql_canonical_eq_iff (hi : IsWellFormed i.parts) (hj : IsWellFormed j.parts) :
    i.canonical.sql = j.canonical.sql ↔ i.names = j.names := by
  rw [← canonical_eq_iff]
  constructor
  · intro h
    have hparse := parse_canonical hi
    rw [h, parse_canonical hj] at hparse
    exact (Except.ok.inj hparse).symm
  · exact congrArg sql

end FilterQuery.Identifier
