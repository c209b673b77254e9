import Mathlib
import FilterQuery.Text.LowerCase

/-!
# Texts whose lower-case form is ASCII

The lower-case form of a text is taken by the mappings of Unicode. The only character outside ASCII
that they send into ASCII is the Kelvin sign, which becomes the letter k. `IsForm.lowerCase_eq_iff`
states that a text has a given form of ASCII characters exactly if, with its Kelvin signs read as
letters, it is that form up to the case of ASCII letters.
-/

namespace FilterQuery.Text

/-- The character is one of ASCII. -/
def IsAscii (c : Char) : Prop := c.toNat < 0x80

instance (c : Char) : Decidable (IsAscii c) := inferInstanceAs (Decidable (c.toNat < 0x80))

/-- The sign for the unit of temperature, which looks like a capital K. -/
def kelvinSign : Char := '\u212A'

/-- The letter that a Kelvin sign looks like, any other character as it stands. -/
def kelvinToLetter (c : Char) : Char := if c = kelvinSign then 'K' else c

/-- The text with letters in place of its Kelvin signs. -/
def withoutKelvinSigns (s : String) : String := s.map kelvinToLetter

/-- Nothing but the case of ASCII letters tells the texts apart. -/
def SameUpToCase (s t : String) : Prop := s.toLower = t.toLower

/-- The text may be a lower-case form: it has ASCII characters only, and no capital letters. -/
def IsForm (t : String) : Prop := ∀ c ∈ t.toList, IsAscii c ∧ ¬c.isUpper

variable {c : Char} {before cs form : List Char} {s t : String}

theorem toLower_of_not_isAscii (h : ¬IsAscii c) : c.toLower = c := by
  apply Char.toLower_eq_of_not_isUpper
  intro hupper
  simp only [Char.isUpper, decide_eq_true_eq, UInt32.le_iff_toNat_le] at hupper
  have hlast : c.toNat ≤ 'Z'.toNat := hupper.2
  have : 'Z'.toNat = 90 := rfl
  unfold IsAscii at h
  omega

/-- A run of the table is the Kelvin sign, or its characters have lower-case forms outside ASCII. -/
theorem eq_kelvinSign_or_of_mem_lowerCaseRuns {r : CaseRun} (h : r ∈ lowerCaseRuns) :
    r.first = kelvinSign.toNat ∧ r.last = kelvinSign.toNat ∨
      0x80 ≤ r.first + r.shift ∧
        (r.last + r.shift < 0xD800 ∨ 0xDFFF < r.first + r.shift ∧ r.last + r.shift < 0x110000) := by
  revert r
  decide +kernel

/-- The lower-case form of a character outside ASCII has a character outside ASCII in it, unless it
is the form of the Kelvin sign. -/
theorem exists_mem_lowerChar (hc : ¬IsAscii c) (hkelvin : c ≠ kelvinSign) :
    ∃ d ∈ lowerChar c, ¬IsAscii d := by
  unfold IsAscii at hc
  rw [lowerChar, if_neg hc]
  split
  case isTrue hdotted => exact ⟨'\u0307', by simp, by decide⟩
  case isFalse hdotted =>
      cases hrun : lowerCaseRuns.find? (·.covers c.toNat) with
      | none => exact ⟨c, by simp, hc⟩
      | some r =>
          refine ⟨_, List.mem_singleton_self _, ?_⟩
          obtain ⟨hfirst, hlast, -⟩ :=
            CaseRun.covers_iff.mp (List.find?_some (p := (CaseRun.covers · c.toNat)) hrun)
          have hne : c.toNat ≠ kelvinSign.toNat := mt Char.toNat_inj.mp hkelvin
          have hrange := eq_kelvinSign_or_of_mem_lowerCaseRuns (List.mem_of_find?_eq_some hrun)
          -- The number of the form is one of a character, so it is not replaced by that of NUL.
          have hvalid : (c.toNat + r.shift).toNat.isValidChar := by
            unfold Nat.isValidChar
            omega
          rw [IsAscii, Char.toNat_ofNat, if_pos hvalid]
          omega

theorem lowerChar_kelvinSign : lowerChar kelvinSign = ['k'] := by decide

theorem kelvinToLetter_of_ne (h : c ≠ kelvinSign) : kelvinToLetter c = c := if_neg h

/-- An ASCII character and the Kelvin sign go to one letter. -/
theorem lowerCaseAfter_cons_of_letter (h : IsAscii c ∨ c = kelvinSign) :
    lowerCaseAfter before (c :: cs) =
      (kelvinToLetter c).toLower :: lowerCaseAfter (c :: before) cs := by
  have hsigma : c ≠ 'Σ' := by
    rintro rfl
    revert h
    decide
  have hletter : lowerChar c = [(kelvinToLetter c).toLower] := by
    rcases h with hc | rfl
    · have hkelvin : c ≠ kelvinSign := by
        rintro rfl
        revert hc
        decide
      rw [lowerChar_of_ascii hc, kelvinToLetter_of_ne hkelvin]
    · exact lowerChar_kelvinSign
  rw [lowerCaseAfter, if_neg hsigma, hletter]
  rfl

/-- Any other character leaves something outside ASCII, a sigma in either of its forms included. -/
theorem exists_mem_lowerCaseAfter (hc : ¬IsAscii c) (hkelvin : c ≠ kelvinSign) :
    ∃ d ∈ lowerCaseAfter before (c :: cs), ¬IsAscii d := by
  rw [lowerCaseAfter]
  split
  · refine ⟨_, List.mem_append_left _ (List.mem_singleton_self _), ?_⟩
    split <;> decide
  · obtain ⟨d, hd, hascii⟩ := exists_mem_lowerChar hc hkelvin
    exact ⟨d, List.mem_append_left _ hd, hascii⟩

/-- A form of ASCII characters is reached letter by letter, whatever stands before the text. -/
theorem lowerCaseAfter_eq_iff (hform : ∀ d ∈ form, IsAscii d) :
    lowerCaseAfter before cs = form ↔ cs.map (fun c => (kelvinToLetter c).toLower) = form := by
  induction cs generalizing before form with
  | nil => rfl
  | cons c cs ih =>
      rw [List.map_cons]
      by_cases h : IsAscii c ∨ c = kelvinSign
      · rw [lowerCaseAfter_cons_of_letter h]
        cases form with
        | nil => simp
        | cons d form =>
            rw [List.cons.injEq, List.cons.injEq,
              ih fun d hd => hform d (List.mem_cons_of_mem _ hd)]
      · obtain ⟨hc, hkelvin⟩ := not_or.mp h
        constructor
        · rintro rfl
          obtain ⟨d, hd, hascii⟩ := exists_mem_lowerCaseAfter hc hkelvin
          exact absurd (hform d hd) hascii
        · rintro rfl
          have hhead := hform _ List.mem_cons_self
          rw [kelvinToLetter_of_ne hkelvin, toLower_of_not_isAscii hc] at hhead
          exact absurd hhead hc

/-- A character outside ASCII stays where it is when ASCII letters change their case. -/
theorem mem_toLower (hmem : c ∈ s.toList) (hc : ¬IsAscii c) : c ∈ s.toLower.toList := by
  rw [String.toLower, String.toList_map, List.mem_map]
  exact ⟨c, hmem, toLower_of_not_isAscii hc⟩

theorem withoutKelvinSigns_eq_self (h : kelvinSign ∉ s.toList) : withoutKelvinSigns s = s := by
  apply String.toList_injective
  rw [withoutKelvinSigns, String.toList_map]
  calc s.toList.map kelvinToLetter
    _ = s.toList.map id :=
      List.map_congr_left fun c hc => kelvinToLetter_of_ne (ne_of_mem_of_not_mem hc h)
    _ = s.toList := List.map_id _

/-- A Kelvin sign becomes the letter k. -/
theorem mem_toLower_withoutKelvinSigns (h : kelvinSign ∈ s.toList) :
    'k' ∈ (withoutKelvinSigns s).toLower.toList := by
  rw [String.toLower, withoutKelvinSigns, String.toList_map, String.toList_map, List.map_map,
    List.mem_map]
  exact ⟨kelvinSign, h, rfl⟩

namespace IsForm

theorem toLower_eq (ht : IsForm t) : t.toLower = t := by
  apply String.toList_injective
  rw [String.toLower, String.toList_map]
  calc t.toList.map Char.toLower
    _ = t.toList.map id :=
      List.map_congr_left fun c hc => Char.toLower_eq_of_not_isUpper (ht c hc).2
    _ = t.toList := List.map_id _

/-- The texts with a given lower-case form are those that become the same up to case when letters
take the place of their Kelvin signs. -/
theorem lowerCase_eq_iff (ht : IsForm t) :
    lowerCase s = t ↔ SameUpToCase (withoutKelvinSigns s) t := by
  rw [SameUpToCase, ht.toLower_eq, ← String.toList_inj, lowerCase, String.toList_ofList,
    lowerCaseAfter_eq_iff fun c hc => (ht c hc).1, ← String.toList_inj, String.toLower,
    withoutKelvinSigns, String.toList_map, String.toList_map, List.map_map]
  rfl

theorem isAscii (ht : IsForm t) (h : SameUpToCase s t) (hc : c ∈ s.toList) : IsAscii c := by
  by_contra hnot
  have hmem := mem_toLower hc hnot
  rw [show s.toLower = t from h.trans ht.toLower_eq] at hmem
  exact hnot (ht c hmem).1

/-- Kelvin signs make no difference for a form without the letter k. -/
theorem lowerCase_eq_iff_of_notMem (ht : IsForm t) (hk : 'k' ∉ t.toList) :
    lowerCase s = t ↔ SameUpToCase s t := by
  rw [ht.lowerCase_eq_iff]
  by_cases hs : kelvinSign ∈ s.toList
  · constructor
    · intro h
      have hmem := mem_toLower_withoutKelvinSigns hs
      rw [show (withoutKelvinSigns s).toLower = t from h.trans ht.toLower_eq] at hmem
      exact absurd hmem hk
    · intro h
      exact absurd (ht.isAscii h hs) (by decide)
  · rw [withoutKelvinSigns_eq_self hs]

end IsForm

end FilterQuery.Text
