import FilterQuery.Text.Blank

/-!
# Texts between blanks

What `trim` leaves of a text, said by the blanks in front of it and behind it.
-/

namespace FilterQuery.Text

/-- All characters are blank. -/
def AllBlank (cs : List Char) : Prop := ∀ c ∈ cs, isBlank c = true

/-- No character is blank. -/
def NoneBlank (cs : List Char) : Prop := ∀ c ∈ cs, isBlank c = false

variable {cs before text after : List Char}

theorem isBlank_of_isDigit {c : Char} (h : c.isDigit = true) : isBlank c = false := by
  simp only [Char.isDigit, Bool.and_eq_true, decide_eq_true_eq, UInt32.le_iff_toNat_le] at h
  have hlow : 48 ≤ c.toNat := h.1
  have hhigh : c.toNat ≤ 57 := h.2
  simp only [isBlank, Bool.or_eq_false_iff, Bool.and_eq_false_iff, decide_eq_false_iff_not,
    beq_eq_false_iff_ne]
  omega

theorem exists_eq_append_dropBlanks (cs : List Char) :
    ∃ before, cs = before ++ dropBlanks cs ∧ AllBlank before := by
  refine ⟨cs.takeWhile isBlank, List.takeWhile_append_dropWhile.symm, ?_⟩
  intro c hc
  exact List.all_eq_true.mp List.all_takeWhile c hc

theorem dropBlanks_append (hbefore : AllBlank before) :
    dropBlanks (before ++ cs) = dropBlanks cs := by
  rw [dropBlanks, List.dropWhile_append_of_pos hbefore]
  rfl

theorem dropBlanks_append_of_noneBlank (hne : text ≠ []) (htext : NoneBlank text) :
    dropBlanks (text ++ cs) = text ++ cs := by
  cases text with
  | nil => exact absurd rfl hne
  | cons c text => exact dropBlanks_eq_self_iff.mpr (htext c List.mem_cons_self)

/-- Only blanks are cut off. -/
theorem exists_eq_append_trim (cs : List Char) :
    ∃ before after, cs = before ++ trim cs ++ after ∧ AllBlank before ∧ AllBlank after := by
  obtain ⟨before, hcs, hbefore⟩ := exists_eq_append_dropBlanks cs
  obtain ⟨after, hrest, hafter⟩ := exists_eq_append_dropBlanks (dropBlanks cs).reverse
  refine ⟨before, after.reverse, ?_, hbefore, fun c hc => hafter c (List.mem_reverse.mp hc)⟩
  rw [List.append_assoc, trim, ← List.reverse_append, ← hrest, List.reverse_reverse]
  exact hcs

/-- A text without blanks is what is left of it between blanks. -/
theorem trim_append (hne : text ≠ []) (hbefore : AllBlank before) (htext : NoneBlank text)
    (hafter : AllBlank after) : trim (before ++ text ++ after) = text := by
  have hreverse : dropBlanks (text ++ after).reverse = text.reverse := by
    rw [List.reverse_append, dropBlanks_append fun c hc => hafter c (List.mem_reverse.mp hc),
      ← List.append_nil text.reverse, dropBlanks_append_of_noneBlank]
    · exact mt List.reverse_eq_nil_iff.mp hne
    · exact fun c hc => htext c (List.mem_reverse.mp hc)
  rw [trim, List.append_assoc, dropBlanks_append hbefore, dropBlanks_append_of_noneBlank hne htext,
    hreverse, List.reverse_reverse]

end FilterQuery.Text
