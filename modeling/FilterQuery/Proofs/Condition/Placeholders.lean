import FilterQuery.Proofs.Condition.Occurrence
import FilterQuery.Proofs.Condition.Text
import FilterQuery.Proofs.Condition.Values

/-!
# Placeholders and values line up

The text of a template is made of literals with a placeholder between any two of them, numbered one
after the other; the literals do not depend on where the numbers start. `printAfter_template_eq`
states this for conditions that are written behind other values: the placeholders have the numbers
that follow, there is one for every value of the condition, and an empty condition writes nothing.
-/

namespace FilterQuery

namespace Sql

/-- The texts of a template: one at its start and one behind each of its values. -/
structure Literals where
  start : String
  behind : List String

namespace Literals

/-- All of the texts. -/
def texts (l : Literals) : List String := l.start :: l.behind

/-- The literals with the given texts between them. -/
def fill (l : Literals) (between : List String) : String :=
  l.start ++ String.join (List.zipWith (· ++ ·) between l.behind)

end Literals

namespace Template

/-- The literals of a template; texts next to each other are one. -/
def literals : Template → Literals
  | [] => ⟨"", []⟩
  | .text s :: rest => ⟨s ++ (literals rest).start, (literals rest).behind⟩
  | .value _ :: rest => ⟨"", (literals rest).start :: (literals rest).behind⟩

/-- Placeholders with consecutive numbers. -/
def placeholders (first count : Nat) : List String := (List.range' first count).map placeholder

variable {first : Nat} {separator : String} {t u : Template} {ts : List Template} {p : Piece}

theorem length_behind_literals (t : Template) : t.literals.behind.length = t.values.length := by
  induction t with
  | nil => rfl
  | cons p rest ih =>
      cases p with
      | text s => exact ih
      | value v => exact congrArg (· + 1) ih

/-- Printing fills in a placeholder for every value. -/
theorem print_eq_fill (first : Nat) (t : Template) :
    t.print first = t.literals.fill (placeholders first t.values.length) := by
  induction t generalizing first with
  | nil => rfl
  | cons p rest ih =>
      cases p with
      | text s =>
          rw [print, ih, Literals.fill, Literals.fill, literals, String.append_assoc]
          rfl
      | value v =>
          have hvalues : (values (.value v :: rest)).length = (values rest).length + 1 := rfl
          have hnumbers : placeholders first ((values rest).length + 1) =
              placeholder first :: placeholders (first + 1) (values rest).length := by
            rw [placeholders, List.range'_succ, List.map_cons, placeholders]
          rw [print, ih, hvalues, hnumbers, literals, Literals.fill, Literals.fill,
            List.zipWith_cons_cons, String.join_cons, String.empty_append, String.append_assoc]

/-- Writes a template piece by piece. A value goes behind those that are there already, and its
place among them is the number of its placeholder. -/
def writeAfter : Template → List Json → String × List Json
  | [], values => ("", values)
  | .text s :: rest, values => (s ++ (writeAfter rest values).1, (writeAfter rest values).2)
  | .value v :: rest, values =>
    (placeholder (values ++ [v]).length ++ (writeAfter rest (values ++ [v])).1,
      (writeAfter rest (values ++ [v])).2)

/-- Printing numbers the placeholders as if their values came in one by one. -/
theorem writeAfter_eq (t : Template) (values : List Json) :
    t.writeAfter values = t.printAfter values := by
  induction t generalizing values with
  | nil => exact Prod.ext rfl (List.append_nil values).symm
  | cons p rest ih =>
      cases p with
      | text s =>
          rw [writeAfter, ih]
          rfl
      | value v =>
          rw [writeAfter, ih, printAfter, List.length_append]
          exact Prod.ext rfl (List.append_assoc values [v] (Template.values rest))

theorem mem_join_of_mem (ht : t ∈ ts) (hp : p ∈ t) : p ∈ join separator ts := by
  induction ts with
  | nil => cases ht
  | cons u rest ih =>
      cases rest with
      | nil =>
          rcases List.mem_singleton.mp ht with rfl
          exact hp
      | cons v rest =>
          rw [join]
          · rcases List.mem_cons.mp ht with rfl | hrest
            · exact List.mem_append_left _ (List.mem_append_left _ hp)
            · exact List.mem_append_right _ (ih hrest)
          · exact List.cons_ne_nil v rest

/-- A template writes no text. -/
def IsBlank (t : Template) : Prop := ∀ p ∈ t, p = .text ""

theorem isBlank_append_iff : (t ++ u : Template).IsBlank ↔ t.IsBlank ∧ u.IsBlank :=
  List.forall_mem_append

theorem isBlank_text_iff {s : String} : (text s).IsBlank ↔ s = "" := by
  simp [IsBlank, text]

theorem not_isBlank_value (v : Json) : ¬(value v).IsBlank := by
  simp [IsBlank, value]

theorem IsBlank.of_join (h : (join separator ts).IsBlank) (ht : t ∈ ts) : t.IsBlank :=
  fun p hp => h p (mem_join_of_mem ht hp)

theorem placeholder_ne_empty (n : Nat) : placeholder n ≠ "" := by
  intro h
  exact absurd (String.append_eq_empty_iff.mp h).1 (by decide)

/-- Every value leaves a trace in the text. -/
theorem print_eq_empty_iff : t.print first = "" ↔ t.IsBlank := by
  induction t generalizing first with
  | nil => simp [IsBlank]
  | cons p rest ih =>
      cases p with
      | text s => simp [print, ih, IsBlank]
      | value v => simp [print, placeholder_ne_empty, IsBlank]

/-- A template has no dollar sign in a text. -/
def IsPlain (t : Template) : Prop := ∀ s, .text s ∈ t → '$' ∉ s.toList

theorem isPlain_text_iff {s : String} : (text s).IsPlain ↔ '$' ∉ s.toList := by
  simp [IsPlain, text]

theorem isPlain_value (v : Json) : (value v).IsPlain := by
  simp [IsPlain, value]

theorem IsPlain.append (ht : t.IsPlain) (hu : u.IsPlain) : (t ++ u : Template).IsPlain := by
  intro s hs
  rcases List.mem_append.mp hs with h | h
  · exact ht s h
  · exact hu s h

theorem IsPlain.join (hseparator : '$' ∉ separator.toList) (h : ∀ t ∈ ts, t.IsPlain) :
    (join separator ts).IsPlain := by
  induction ts with
  | nil => simp [IsPlain, Template.join]
  | cons t rest ih =>
      have ht := h t List.mem_cons_self
      cases rest with
      | nil => exact ht
      | cons u rest =>
          have hrest := ih fun v hv => h v (List.mem_cons_of_mem t hv)
          exact (ht.append (isPlain_text_iff.mpr hseparator)).append hrest

theorem IsPlain.parenthesized (h : t.IsPlain) : t.parenthesized.IsPlain :=
  ((isPlain_text_iff.mpr (by decide)).append h).append (isPlain_text_iff.mpr (by decide))

theorem IsPlain.literals (h : t.IsPlain) : ∀ s ∈ t.literals.texts, '$' ∉ s.toList := by
  induction t with
  | nil => simp [Template.literals, Literals.texts]
  | cons p rest ih =>
      have hrest := ih fun s hs => h s (List.mem_cons_of_mem p hs)
      cases p with
      | text s =>
          have hs := h s List.mem_cons_self
          obtain ⟨hstart, hbehind⟩ := List.forall_mem_cons.mp hrest
          refine List.forall_mem_cons.mpr ⟨?_, hbehind⟩
          rw [Template.literals, String.toList_append, List.mem_append, not_or]
          exact ⟨hs, hstart⟩
      | value v => simpa [Template.literals, Literals.texts] using hrest

end Template

end Sql

namespace Condition

open Sql

mutual

/-- The names in a condition: columns, tables and how the rows of these are correlated. -/
def names : Condition → List String
  | all cs | any cs => namesAll cs
  | existsRow table correlation c => table :: correlation :: names c
  | c => c.column?.toList

/-- The names in conditions, one after the other. -/
def namesAll : List Condition → List String
  | [] => []
  | c :: rest => names c ++ namesAll rest

end

variable {c : Condition} {cs : List Condition}

theorem mem_namesAll {name : String} (hc : c ∈ cs) (h : name ∈ c.names) : name ∈ namesAll cs := by
  induction cs with
  | nil => cases hc
  | cons d rest ih =>
      rw [namesAll]
      rcases List.mem_cons.mp hc with rfl | hrest
      · exact List.mem_append_left _ h
      · exact List.mem_append_right _ (ih hrest)

theorem mem_parts_iff {needed : Condition → Bool} {t : Template} :
    t ∈ parts needed cs ↔ ∃ c ∈ cs, c.isEmpty = false ∧ bracketIf (needed c) c.template = t := by
  induction cs with
  | nil => simp [parts]
  | cons c rest ih =>
      rw [parts]
      cases hc : c.isEmpty with
      | true => simp [ih, hc]
      | false => simp [ih, hc, eq_comm (a := t)]

theorem isPlain_bracketIf {needed : Bool} {t : Template} (h : t.IsPlain) :
    (bracketIf needed t).IsPlain := by
  cases needed with
  | false => exact h
  | true => exact h.parenthesized

theorem isPlain_parts {needed : Condition → Bool} (h : ∀ c ∈ cs, c.template.IsPlain) :
    ∀ t ∈ parts needed cs, t.IsPlain := by
  intro t ht
  obtain ⟨c, hc, -, rfl⟩ := mem_parts_iff.mp ht
  exact isPlain_bracketIf (h c hc)

theorem isPlain_membershipTemplate {column : String} (hcolumn : '$' ∉ column.toList)
    (vs : List Json) (negated : Bool) : (membershipTemplate column vs negated).IsPlain := by
  have hvalues : (Template.join ", " (vs.map Template.value)).IsPlain := by
    apply Template.IsPlain.join (by decide)
    simp only [List.forall_mem_map]
    exact fun v _ => Template.isPlain_value v
  rw [membershipTemplate]
  split
  · cases negated <;> exact Template.isPlain_text_iff.mpr (by decide)
  · refine (Template.IsPlain.append ?_ hvalues).append (Template.isPlain_text_iff.mpr (by decide))
    cases negated <;> simp [Template.isPlain_text_iff, hcolumn]

/-- The text of a test has no dollar sign but in its column. -/
theorem isPlain_template_of_column? {column : String} (h : c.column? = some column)
    (hcolumn : '$' ∉ column.toList) : c.template.IsPlain := by
  cases c with
  | all cs | any cs | existsRow t r c | always | never => cases h
  | compare column' op v =>
      cases h
      have hsql : '$' ∉ op.sql.toList := by cases op <;> decide
      refine Template.IsPlain.append ?_ (Template.isPlain_value v)
      simp [Template.isPlain_text_iff, hcolumn, hsql]
  | nullness column' isNull =>
      cases h
      cases isNull <;> simp [template, Template.isPlain_text_iff, hcolumn]
  | membership column' vs negated =>
      cases h
      exact isPlain_membershipTemplate hcolumn vs negated
  | range column' lower upper negated =>
      cases h
      refine ((Template.IsPlain.append ?_ (Template.isPlain_value lower)).append
        (Template.isPlain_text_iff.mpr (by decide))).append (Template.isPlain_value upper)
      cases negated <;> simp [Template.isPlain_text_iff, hcolumn]

/-- A dollar sign in the text of a condition stands in one of its names. -/
theorem isPlain_template (h : ∀ name ∈ c.names, '$' ∉ name.toList) : c.template.IsPlain := by
  induction c using memberInduction with
  | all cs ih =>
      exact Template.IsPlain.join (by decide)
        (isPlain_parts fun c hc => ih c hc fun name hname => h name (mem_namesAll hc hname))
  | any cs ih =>
      exact Template.IsPlain.join (by decide)
        (isPlain_parts fun c hc => ih c hc fun name hname => h name (mem_namesAll hc hname))
  | existsRow t r c ih =>
      simp only [names, List.forall_mem_cons] at h
      obtain ⟨ht, hr, hnames⟩ := h
      rw [template]
      refine (Template.IsPlain.append ?_ ?_).append (Template.isPlain_text_iff.mpr (by decide))
      · simp [Template.isPlain_text_iff, ht, hr]
      · split
        · simp [Template.IsPlain]
        · exact (Template.isPlain_text_iff.mpr (by decide)).append (isPlain_bracketIf (ih hnames))
  | test c column hcolumn =>
      have hname : column ∈ c.names := by
        cases c with
        | all cs | any cs | existsRow t r c | always | never => cases hcolumn
        | _ => simpa [names] using hcolumn
      exact isPlain_template_of_column? hcolumn (h column hname)
  | always => exact Template.isPlain_text_iff.mpr (by decide)
  | never => exact Template.isPlain_text_iff.mpr (by decide)

theorem areEmpty_iff : areEmpty cs = true ↔ ∀ c ∈ cs, c.isEmpty = true := by
  induction cs with
  | nil => simp [areEmpty]
  | cons c rest ih => simp [areEmpty, ih]

theorem isBlank_of_parts {needed : Condition → Bool} {separator : String}
    (h : (Template.join separator (parts needed cs)).IsBlank) (hc : c ∈ cs)
    (hfull : c.isEmpty = false) : c.template.IsBlank := by
  have hpart := h.of_join (mem_parts_iff.mpr ⟨c, hc, hfull, rfl⟩)
  cases hneeded : needed c with
  | false => simpa [hneeded, bracketIf] using hpart
  | true =>
      rw [hneeded, bracketIf, if_pos rfl, Template.parenthesized] at hpart
      exact (Template.isBlank_append_iff.mp (Template.isBlank_append_iff.mp hpart).1).2

/-- A condition without text is empty. -/
theorem isEmpty_of_isBlank (h : c.template.IsBlank) : c.isEmpty = true := by
  have hmembers {cs : List Condition} {needed : Condition → Bool} {separator : String}
      (ih : ∀ c ∈ cs, c.template.IsBlank → c.isEmpty = true)
      (h : (Template.join separator (parts needed cs)).IsBlank) : areEmpty cs = true := by
    refine areEmpty_iff.mpr fun c hc => ?_
    cases hfull : c.isEmpty with
    | true => rfl
    | false => exact hfull.symm.trans (ih c hc (isBlank_of_parts h hc hfull))
  -- whatever is no list of parts ends in a value or in text that does not come from a name
  induction c using memberInduction with
  | all cs ih => exact hmembers ih h
  | any cs ih => exact hmembers ih h
  | existsRow t r c ih =>
      have hclosing := (Template.isBlank_append_iff.mp h).2
      exact absurd (Template.isBlank_text_iff.mp hclosing) (by decide)
  | test c column hcolumn =>
      cases c with
      | all cs | any cs | existsRow t r c | always | never => cases hcolumn
      | compare column' op v =>
          exact absurd (Template.isBlank_append_iff.mp h).2 (Template.not_isBlank_value v)
      | nullness column' isNull =>
          have htext := (String.append_eq_empty_iff.mp (Template.isBlank_text_iff.mp h)).2
          cases isNull <;> exact absurd htext (by decide)
      | membership column' vs negated =>
          rw [template, membershipTemplate] at h
          split at h
          · cases negated <;> exact absurd (Template.isBlank_text_iff.mp h) (by decide)
          · have hclosing := (Template.isBlank_append_iff.mp h).2
            exact absurd (Template.isBlank_text_iff.mp hclosing) (by decide)
      | range column' lower upper negated =>
          exact absurd (Template.isBlank_append_iff.mp h).2 (Template.not_isBlank_value upper)
  | always => exact absurd (Template.isBlank_text_iff.mp h) (by decide)
  | never => exact absurd (Template.isBlank_text_iff.mp h) (by decide)

theorem isBlank_template_iff : c.template.IsBlank ↔ c.isEmpty = true := by
  constructor
  · exact isEmpty_of_isBlank
  · intro h p hp
    have hnil := (isEmpty_template c).trans h
    rw [List.isEmpty_iff.mp hnil] at hp
    cases hp

/-- Behind values that have placeholders already, a condition writes the text that it has by itself,
the numbers of its placeholders increased by the count of these values, and adds its own values,
each at the place that its placeholder says. It writes no dollar sign besides, unless one of its
names has it. An empty condition, and no other one, writes nothing. -/
theorem printAfter_template_eq (c : Condition) (before : List Json) :
    c.template.literals.behind.length = c.values.length ∧
      c.template.writeAfter before = c.template.printAfter before ∧
      c.template.printAfter before =
        (c.template.literals.fill (Template.placeholders (before.length + 1) c.values.length),
          before ++ c.values) ∧
      c.toSql = ⟨c.template.literals.fill (Template.placeholders 1 c.values.length), c.values⟩ ∧
      ((∀ name ∈ c.names, '$' ∉ name.toList) →
        ∀ s ∈ c.template.literals.texts, '$' ∉ s.toList) ∧
      (c.template.printAfter before = ("", before) ↔ c.isEmpty = true) ∧
      ((c.template.printAfter before).1 = "" ↔ c.isEmpty = true) := by
  have hprint (first : Nat) : c.template.print first =
      c.template.literals.fill (Template.placeholders first c.values.length) := by
    rw [Template.print_eq_fill, values_template]
  have htext : (c.template.printAfter before).1 = "" ↔ c.isEmpty = true :=
    Template.print_eq_empty_iff.trans isBlank_template_iff
  refine ⟨?_, Template.writeAfter_eq _ before, ?_, ?_, fun h => (isPlain_template h).literals, ?_,
    htext⟩
  · rw [Template.length_behind_literals, values_template]
  · rw [Template.printAfter, hprint, values_template]
  · rw [toSql, Template.toStatement, hprint, values_template]
  · constructor
    · intro h
      exact htext.mp (congrArg Prod.fst h)
    · intro h
      refine Prod.ext (htext.mpr h) ?_
      rw [Template.printAfter, values_template, values_of_isEmpty c h, List.append_nil]

/-- Names and dates with an empty part between them. -/
def namedOrDated : Condition :=
  .any
    [.membership "entries.title" [.string "A", .string "B"] true,
      .all [],
      .existsRow "dates" "dates.entry_id = entries.id"
        (.any [.range "dates.day" (.string "C") (.string "D") false,
          .compare "dates.day" .equal .null])]

/-- Behind one value the placeholders start with the second number. -/
theorem printAfter_namedOrDated :
    (∀ name ∈ namedOrDated.names, '$' ∉ name.toList) ∧
      (∀ s ∈ namedOrDated.template.literals.texts, '$' ∉ s.toList) ∧
      namedOrDated.template.printAfter [.string "first"] =
        ("entries.title NOT IN ($2, $3) OR EXISTS (SELECT 1 FROM dates WHERE " ++
            "dates.entry_id = entries.id AND (dates.day BETWEEN $4 AND $5 OR dates.day = $6))",
          [.string "first", .string "A", .string "B", .string "C", .string "D", .null]) := by
  have hnames : ∀ name ∈ namedOrDated.names, '$' ∉ name.toList := by decide
  obtain ⟨-, -, hprint, -, hplain, -⟩ := printAfter_template_eq namedOrDated [.string "first"]
  exact ⟨hnames, hplain hnames, hprint.trans rfl⟩

end Condition

end FilterQuery
