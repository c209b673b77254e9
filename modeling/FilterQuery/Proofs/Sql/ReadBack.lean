import FilterQuery.Condition.Sql
import FilterQuery.Proofs.Sql.Lexing
import FilterQuery.Proofs.Sql.Reading

/-!
# Reading back what was written

The SQL text of a condition, read with the precedence of SQL, says what the condition says. The
induction is on the condition: its template gives tokens, and these read as one operand or, for a
disjunction, as runs. A part gets its parentheses by the outermost constructor alone; that this is
enough is the reason why both readings are carried along.
-/

namespace FilterQuery

open Sql Sql.Formula Identifier

namespace Condition

mutual

/-- Columns and tables are identifiers, correlations compare two of them, and operators compare. -/
def WellNamed : Condition → Prop
  | all cs | any cs => AllWellNamed cs
  | compare column op _ => IsText column ∧ op.isComparison = true
  | nullness column _ | membership column _ _ | range column _ _ _ => IsText column
  | existsRow table correlation c =>
    IsText table ∧
      (∃ left right, IsText left ∧ IsText right ∧ correlation = left ++ " = " ++ right) ∧
      WellNamed c
  | always | never => True

/-- All of the conditions are well named. -/
def AllWellNamed : List Condition → Prop
  | [] => True
  | c :: rest => WellNamed c ∧ AllWellNamed rest

end

universe u v

variable {ε : Type u} {ρ : Type v} (I : Interpretation ε ρ) (entity : ε)

/-- The tokens of an operator that compares. -/
def operatorTokens : Operator → List Token
  | .like => [.name "LIKE"]
  | .notLike => [.name "NOT", .name "LIKE"]
  | op => [.symbol op.text]

theorem lexes_operator {op : Operator} (h : op.isComparison = true) :
    Lexes Anything (Template.text (" " ++ op.sql ++ " ")) (operatorTokens op) := by
  have hsymbol : ∀ (c : Char) (front : List Char), Token.isSymbol c = true →
      (∀ d ∈ front, Token.isSymbol d = true) →
      Lexes Anything (Template.text (" " ++ String.ofList (c :: front) ++ " "))
        [.symbol (String.ofList (c :: front))] := by
    intro c front hc hfront
    apply Lexes.of_text
    intro params rest _
    have htext : (" " ++ String.ofList (c :: front) ++ " ").toList ++ rest =
        ' ' :: c :: (front ++ ' ' :: rest) := by simp
    rw [htext, lex_space, lex_symbol hc hfront (.inr ⟨' ', rest, rfl, .inl rfl⟩), lex_space]
    rfl
  have hlike : Lexes Anything (Template.text (words ["LIKE"] ++ " ")) [.name "LIKE"] :=
    lexes_words_space (by simpa using ⟨_, rfl⟩)
  have hnotLike : Lexes Anything (Template.text (words ["NOT", "LIKE"] ++ " "))
      [.name "NOT", .name "LIKE"] :=
    lexes_words_space (by simpa using ⟨⟨_, rfl⟩, ⟨_, rfl⟩⟩)
  have hequals : ∀ d ∈ ['='], Token.isSymbol d = true := by
    intro d hd
    rw [List.mem_singleton.mp hd]
    rfl
  cases op with
  | equal => exact hsymbol '=' [] rfl (by simp)
  | notEqual => exact hsymbol '!' ['='] rfl hequals
  | greater => exact hsymbol '>' [] rfl (by simp)
  | greaterOrEqual => exact hsymbol '>' ['='] rfl hequals
  | less => exact hsymbol '<' [] rfl (by simp)
  | lessOrEqual => exact hsymbol '<' ['='] rfl hequals
  | like => exact hlike
  | notLike => exact hnotLike
  | inList => cases h
  | notInList => cases h
  | between => cases h
  | notBetween => cases h
  | isNull => cases h
  | isNotNull => cases h

theorem test?_operatorTokens {op : Operator} (h : op.isComparison = true) (v : Json)
    (rest : List Token) :
    test? (operatorTokens op ++ .value v :: rest) = some (.compare op v, rest) := by
  cases op with
  | equal => rfl
  | notEqual => rfl
  | greater => rfl
  | greaterOrEqual => rfl
  | less => rfl
  | lessOrEqual => rfl
  | like => rfl
  | notLike => rfl
  | inList => cases h
  | notInList => cases h
  | between => cases h
  | notBetween => cases h
  | isNull => cases h
  | isNotNull => cases h

/-- The tokens of a condition: its template gives them, and they read as what it says. As an operand
they may stand alone unless the condition is a disjunction. -/
structure Reads (I : Interpretation ε ρ) (entity : ε) (c : Condition) (ts : List Token) : Prop where
  lexes : Lexes EndsToken c.template ts
  operand : c.isAny = false → ExtendsRun I entity ts fun around => c.truth I entity around
  runs : AddsRuns I entity ts fun around => c.truth I entity around

variable {I entity}

theorem Reads.of_operand {c : Condition} {ts : List Token} (h : Lexes EndsToken c.template ts)
    (hoperand : ExtendsRun I entity ts fun around => c.truth I entity around) :
    Reads I entity c ts :=
  ⟨h, fun _ => hoperand, hoperand.addsRuns⟩

/-- A test is read as soon as what stands behind its column is. -/
theorem extendsRun_of_test? {column : String} {ts : List Token} {t : Test}
    (h : ∀ rest, test? (ts ++ rest) = some (t, rest)) :
    ExtendsRun I entity (.name column :: ts) fun around => I.truth entity around column t := by
  have hoperand : ∀ rest, operand? (.name column :: ts ++ rest) =
      some (.whole (.test column t), rest) := by
    intro rest
    have ht := h rest
    rw [List.cons_append]
    generalize ts ++ rest = us at ht ⊢
    have hmap : operand? (.name column :: us) =
        (test? us).map fun r => (.whole (.test column r.1), r.2) := by
      unfold test? at ht
      split at ht
      · rfl
      · rfl
      · cases ht
    rw [hmap, ht]
    rfl
  exact extendsRun_of_operand? hoperand

theorem reads_compare {column : String} {op : Operator} (hcolumn : IsText column)
    (hop : op.isComparison = true) (v : Json) :
    Reads I entity (compare column op v) (.name column :: (operatorTokens op ++ [.value v])) := by
  apply Reads.of_operand
  · have hoperator : Lexes Anything (Template.text (column ++ (" " ++ op.sql ++ " ")))
        (.name column :: operatorTokens op) := by
      apply (lexes_operator hop).name_append hcolumn
      rw [String.append_assoc]
      exact separates_space
    have hcompare := hoperator.append_of_anything (Lexes.value v)
    rw [template]
    simpa only [String.append_assoc, List.cons_append] using hcompare
  · apply extendsRun_of_test?
    intro rest
    rw [List.append_assoc]
    exact test?_operatorTokens hop v rest

theorem reads_nullness {column : String} (hcolumn : IsText column) (isNull : Bool) :
    Reads I entity (nullness column isNull)
      (.name column :: (if isNull then ["IS", "NULL"] else ["IS", "NOT", "NULL"]).map .name) := by
  have hwords : ∀ x ∈ if isNull then ["IS", "NULL"] else ["IS", "NOT", "NULL"], IsText x := by
    cases isNull with
    | true => simpa using ⟨⟨_, rfl⟩, ⟨_, rfl⟩⟩
    | false => simpa using ⟨⟨_, rfl⟩, ⟨_, rfl⟩, ⟨_, rfl⟩⟩
  have htext : (if isNull then " IS NULL" else " IS NOT NULL") =
      words (if isNull then ["IS", "NULL"] else ["IS", "NOT", "NULL"]) := by
    cases isNull with
    | true => decide
    | false => decide
  apply Reads.of_operand
  · rw [template, htext]
    apply (lexes_words hwords).name_append hcolumn
    cases isNull with
    | true => exact separates_words
    | false => exact separates_words
  · apply extendsRun_of_test?
    intro rest
    cases isNull with
    | true => rfl
    | false => rfl

theorem lexes_constant (b : Bool) :
    Lexes EndsToken (Template.text (if b then "1=1" else "1=0"))
      [.number 1, .symbol "=", .number (if b then 1 else 0)] :=
  Lexes.of_text fun _ _ hrest => lex_constant b hrest

theorem extendsRun_constant (b : Bool) :
    ExtendsRun I entity [.number 1, .symbol "=", .number (if b then 1 else 0)]
      fun _ => .ofBool b := by
  have hread : ∀ rest, operand? ([.number 1, .symbol "=", .number (if b then 1 else 0)] ++ rest) =
      some (.whole (.constant b), rest) := by
    intro rest
    cases b with
    | true => rfl
    | false => rfl
  exact extendsRun_of_operand? hread

theorem values?_commaTokens (v : Json) (vs : List Json) (rest : List Token) :
    values? (.value v :: commaTokens vs ++ .closing :: rest) = some (v :: vs, rest) := by
  induction vs generalizing v with
  | nil => rfl
  | cons w vs ih =>
      have hvalues : .value v :: commaTokens (w :: vs) ++ .closing :: rest =
          .value v :: .comma :: (.value w :: commaTokens vs ++ .closing :: rest) := rfl
      rw [hvalues, values?, ih w]
      rfl

/-- The words that a test may start with behind its column. -/
def negatable (negated : Bool) (word : String) : List String :=
  if negated then ["NOT", word] else [word]

theorem isText_negatable {word : String} (h : IsText word) (negated : Bool) :
    ∀ x ∈ negatable negated word, IsText x := by
  cases negated with
  | true => simpa [negatable] using ⟨⟨_, rfl⟩, h⟩
  | false => simpa [negatable] using h

theorem separates_negatable (negated : Bool) (word : String) :
    Separates (Template.text (words (negatable negated word))) := by
  cases negated with
  | true => exact separates_words
  | false => exact separates_words

theorem reads_membership {column : String} (hcolumn : IsText column) (v : Json) (vs : List Json)
    (negated : Bool) :
    Reads I entity (membership column (v :: vs) negated)
      (.name column :: ((negatable negated "IN").map .name ++
        .opening :: (.value v :: commaTokens vs ++ [.closing]))) := by
  have htext : (if negated then " NOT IN (" else " IN (") =
      words (negatable negated "IN") ++ " " ++ "(" := by
    cases negated with
    | true => decide
    | false => decide
  have hopening : Lexes Anything (Template.text (words (negatable negated "IN") ++ " " ++ "("))
      ((negatable negated "IN").map .name ++ [.opening]) :=
    Lexes.text_append ((lexes_words_space (isText_negatable ⟨_, rfl⟩ negated)).append_of_anything
      Lexes.opening)
  have hfront := hopening.name_append hcolumn
    (((separates_negatable negated "IN").text_append _).text_append _)
  have hlist := hfront.append_of_anything (lexes_values v vs)
  have hclosing : Separates (Template.text ")") := separates_text rfl (.inr (.inl rfl))
  have hlexes : Lexes EndsToken _ _ :=
    (hlist.append_of_separates Lexes.closing hclosing).of_anything
  apply Reads.of_operand
  · rw [template, membershipTemplate, List.isEmpty_cons, if_neg Bool.false_ne_true, htext]
    simpa using hlexes
  · apply extendsRun_of_test?
    intro rest
    have htest : ∀ us, test? ((negatable negated "IN").map .name ++ .opening :: us) =
        (values? us).map fun r => (.membership r.1 negated, r.2) := by
      intro us
      cases negated with
      | true => rfl
      | false => rfl
    have hlist : (negatable negated "IN").map .name ++
        .opening :: (.value v :: commaTokens vs ++ [.closing]) ++ rest =
          (negatable negated "IN").map .name ++
            .opening :: (.value v :: commaTokens vs ++ .closing :: rest) := by simp
    rw [hlist, htest, values?_commaTokens]
    rfl

/-- The text between two operands is a word with spaces around it. -/
theorem lexes_connective {x word : String} (hx : x = " " ++ word ++ " ") (h : IsText word) :
    Lexes Anything (Template.text x) [.name word] := by
  have hwords : x = words [word] ++ " " := by simp [hx, words]
  rw [hwords]
  exact lexes_words_space (by simpa using h)

theorem lexes_and : Lexes Anything (Template.text " AND ") [.name "AND"] :=
  lexes_connective (by decide) ⟨_, rfl⟩

theorem lexes_or : Lexes Anything (Template.text " OR ") [.name "OR"] :=
  lexes_connective (by decide) ⟨_, rfl⟩

theorem separates_and : Separates (Template.text " AND ") := separates_text rfl (.inl rfl)

theorem separates_or : Separates (Template.text " OR ") := separates_text rfl (.inl rfl)

theorem reads_range {column : String} (hcolumn : IsText column) (lower upper : Json)
    (negated : Bool) :
    Reads I entity (range column lower upper negated)
      (.name column :: ((negatable negated "BETWEEN").map .name ++
        [.value lower, .name "AND", .value upper])) := by
  have htext : (if negated then " NOT BETWEEN " else " BETWEEN ") =
      words (negatable negated "BETWEEN") ++ " " := by
    cases negated with
    | true => decide
    | false => decide
  have hfront := (lexes_words_space (isText_negatable ⟨_, rfl⟩ negated)).name_append hcolumn
    ((separates_negatable negated "BETWEEN").text_append _)
  have hlexes := ((hfront.append_of_anything (Lexes.value lower)).append_of_separates lexes_and
    separates_and).append_of_anything (Lexes.value upper)
  apply Reads.of_operand
  · rw [template, htext]
    simpa using hlexes
  · apply extendsRun_of_test?
    intro rest
    cases negated with
    | true => rfl
    | false => rfl

theorem lexes_select : Lexes Anything (Template.text "EXISTS (SELECT 1 FROM ")
    [.name "EXISTS", .opening, .name "SELECT", .number 1, .name "FROM"] := by
  apply Lexes.of_text
  intro params rest _
  have hends : ∀ cs, EndsToken (' ' :: cs) := fun cs => .inr ⟨' ', cs, rfl, .inl rfl⟩
  have htext : "EXISTS (SELECT 1 FROM ".toList ++ rest =
      "EXISTS".toList ++ ' ' :: '(' :: ("SELECT".toList ++ ' ' :: '1' :: ' ' ::
        ("FROM".toList ++ ' ' :: rest)) := rfl
  rw [htext, lex_name ⟨_, rfl⟩ (hends _), lex_space, lex_opening, lex_name ⟨_, rfl⟩ (hends _),
    lex_space, lex_digit rfl rfl, lex_space, lex_name ⟨_, rfl⟩ (hends _), lex_space]
  simp only [Option.map_map]
  rfl

theorem lexes_subquery {table left right : String} (htable : IsText table) (hleft : IsText left)
    (hright : IsText right) :
    Lexes EndsToken (Template.text ("EXISTS (SELECT 1 FROM " ++ table ++ " WHERE " ++
      (left ++ " = " ++ right))) (subqueryTokens table left right) := by
  have hwhere : Lexes Anything (Template.text " WHERE ") [.name "WHERE"] :=
    lexes_connective (by decide) ⟨_, rfl⟩
  have hequal : Lexes Anything (Template.text " = ") [.symbol "="] := by
    have htext : " = " = " " ++ Operator.equal.sql ++ " " := by decide
    rw [htext]
    exact lexes_operator rfl
  have hfrom := Lexes.text_append (lexes_select.append_of_anything (Lexes.name htable))
  have hfilter := Lexes.text_append (hfrom.append_of_separates hwhere (separates_text rfl (.inl rfl)))
  have hfirst := Lexes.text_append
    ((Lexes.name hleft).append_of_separates hequal (separates_text rfl (.inl rfl)))
  have hcorrelation := Lexes.text_append (hfirst.append_of_anything (Lexes.name hright))
  exact Lexes.text_append (hfilter.append_of_anything hcorrelation)

/-- As a part of a conjunction, a disjunction has parentheses and all else may stand alone. -/
theorem Reads.conjunct {c : Condition} {ts : List Token} (h : Reads I entity c ts) :
    ∃ us, Lexes EndsToken (bracketIf c.isAny c.template) us ∧
      ExtendsRun I entity us fun around => c.truth I entity around := by
  cases hany : c.isAny with
  | true => exact ⟨_, h.lexes.parenthesized, h.runs.parenthesized⟩
  | false => exact ⟨ts, h.lexes, h.operand hany⟩

/-- As a part of a disjunction, everything may stand alone; a conjunction has parentheses. -/
theorem Reads.disjunct {c : Condition} {ts : List Token} (h : Reads I entity c ts) :
    ∃ us, Lexes EndsToken (bracketIf c.isAll c.template) us ∧
      AddsRuns I entity us fun around => c.truth I entity around := by
  cases c.isAll with
  | true => exact ⟨_, h.lexes.parenthesized, h.runs.parenthesized.addsRuns⟩
  | false => exact ⟨ts, h.lexes, h.runs⟩

/-- A subquery reads as its correlation and what continues from it. -/
theorem reads_existsRow {table left right : String} {c : Condition} (us : List Token)
    (htable : IsText table) (hleft : IsText left) (hright : IsText right)
    (hus : Lexes EndsToken
      (if c.isEmpty then [] else Template.text " AND " ++ bracketIf c.isAny c.template) us)
    (hread : ContinuesRun I entity us fun around =>
      if c.isEmpty then .yes else c.truth I entity around) :
    Reads I entity (existsRow table (left ++ " = " ++ right) c)
      (subqueryTokens table left right ++ us ++ [.closing]) := by
  apply Reads.of_operand
  · have hclosing : Separates (Template.text ")") := separates_text rfl (.inr (.inl rfl))
    have hfront : Lexes EndsToken (Template.text ("EXISTS (SELECT 1 FROM " ++ table ++ " WHERE " ++
        (left ++ " = " ++ right)) ++
          (if c.isEmpty then [] else Template.text " AND " ++ bracketIf c.isAny c.template))
        (subqueryTokens table left right ++ us) := by
      apply (lexes_subquery htable hleft hright).append hus
      intro n rest hrest
      split
      · exact hrest
      · exact separates_and.append _ n rest
    rw [template]
    exact (hfront.append_of_separates Lexes.closing hclosing).of_anything
  · exact hread.subquery table left right

section Operands

variable {word separator : String} {combine : Truth → Truth → Truth} {unit : Truth}
variable {operand more : List Token → (List ρ → Truth) → Prop} {bracket : Condition → Bool}

/-- The parts of a condition behind its first one, each behind the connective. -/
theorem exists_more (hconnects : Connects word combine unit operand more)
    (hword : Lexes Anything (Template.text separator) [.name word])
    (hseparates : Separates (Template.text separator)) {cs : List Condition}
    (h : ∀ c ∈ cs, c.isEmpty = false →
      ∃ ts, Lexes EndsToken (bracketIf (bracket c) c.template) ts ∧
        operand ts fun around => c.truth I entity around) :
    ∃ ts,
      Lexes EndsToken ((parts bracket cs).flatMap fun t => Template.text separator ++ t) ts ∧
        more ts fun around => (truths I entity around cs).foldr combine unit := by
  induction cs with
  | nil => exact ⟨[], Lexes.nil, hconnects.nil⟩
  | cons c rest ih =>
      obtain ⟨hc, hrest⟩ := List.forall_mem_cons.mp h
      obtain ⟨us, hus, hmore⟩ := ih hrest
      cases hempty : c.isEmpty with
      | true =>
          refine ⟨us, ?_, ?_⟩
          · rw [parts, hempty]
            exact hus
          · simpa [truths, hempty] using hmore
      | false =>
          obtain ⟨ts, hlexes, hread⟩ := hc hempty
          refine ⟨.name word :: ts ++ us, ?_, ?_⟩
          · rw [parts, hempty]
            exact (hword.append_of_anything hlexes).append hus fun n rest hends =>
              endsToken_following hseparates _ n hends
          · simpa [truths, hempty] using hconnects.behind hread hmore

/-- The parts of a condition that is not empty, the connective between them. -/
theorem exists_joined (hconnects : Connects word combine unit operand more)
    (hword : Lexes Anything (Template.text separator) [.name word])
    (hseparates : Separates (Template.text separator)) {cs : List Condition}
    (hempty : areEmpty cs = false)
    (h : ∀ c ∈ cs, c.isEmpty = false →
      ∃ ts, Lexes EndsToken (bracketIf (bracket c) c.template) ts ∧
        operand ts fun around => c.truth I entity around) :
    ∃ ts, Lexes EndsToken (Template.join separator (parts bracket cs)) ts ∧
      operand ts fun around => (truths I entity around cs).foldr combine unit := by
  induction cs with
  | nil => cases hempty
  | cons c rest ih =>
      obtain ⟨hc, hrest⟩ := List.forall_mem_cons.mp h
      cases hfirst : c.isEmpty with
      | true =>
          have hothers : areEmpty rest = false := by simpa [areEmpty, hfirst] using hempty
          obtain ⟨ts, hlexes, hread⟩ := ih hothers hrest
          refine ⟨ts, ?_, ?_⟩
          · rw [parts, hfirst]
            exact hlexes
          · simpa [truths, hfirst] using hread
      | false =>
          obtain ⟨ts, hlexes, hread⟩ := hc hfirst
          obtain ⟨us, hus, hmore⟩ := exists_more hconnects hword hseparates hrest
          refine ⟨ts ++ us, ?_, ?_⟩
          · rw [parts, hfirst, if_neg Bool.false_ne_true, join_cons]
            exact hlexes.append hus fun n rest hends =>
              endsToken_following hseparates _ n hends
          · simpa [truths, hfirst] using hconnects.append hread hmore

end Operands

mutual

/-- A condition that is not empty and well named reads as what it says. -/
theorem exists_reads : (c : Condition) → c.isEmpty = false → c.WellNamed →
    ∃ ts, Reads I entity c ts
  | compare column op v, _, hw => ⟨_, reads_compare hw.1 hw.2 v⟩
  | nullness column isNull, _, hw => ⟨_, reads_nullness hw isNull⟩
  | range column lower upper negated, _, hw => ⟨_, reads_range hw lower upper negated⟩
  | membership column [] negated, _, _ =>
      ⟨_, Reads.of_operand (lexes_constant negated) (extendsRun_constant negated)⟩
  | membership column (v :: vs) negated, _, hw => ⟨_, reads_membership hw v vs negated⟩
  | always, _, _ => ⟨_, Reads.of_operand (lexes_constant true) (extendsRun_constant true)⟩
  | never, _, _ => ⟨_, Reads.of_operand (lexes_constant false) (extendsRun_constant false)⟩
  | existsRow table correlation c, _, hw => by
      obtain ⟨htable, ⟨left, right, hleft, hright, rfl⟩, hc⟩ := hw
      cases hempty : c.isEmpty with
      | true =>
          refine ⟨_, reads_existsRow [] htable hleft hright ?_ ?_⟩
          · rw [hempty]
            exact Lexes.nil
          · rw [hempty]
            exact ContinuesRun.nil
      | false =>
          obtain ⟨ts, hts⟩ := exists_reads c hempty hc
          obtain ⟨us, hlexes, hread⟩ := hts.conjunct
          refine ⟨_, reads_existsRow (.name "AND" :: us) htable hleft hright ?_ ?_⟩
          · rw [hempty]
            exact lexes_and.append_of_anything hlexes
          · rw [hempty]
            simpa using ContinuesRun.and_append hread ContinuesRun.nil
  | all cs, hempty, hw => by
      obtain ⟨ts, hlexes, hread⟩ := exists_joined connects_and lexes_and separates_and hempty
        fun c hc hfull => (exists_readsAll cs hw c hc hfull).elim fun _ hts => hts.conjunct
      exact ⟨ts, Reads.of_operand hlexes hread⟩
  | any cs, hempty, hw => by
      obtain ⟨ts, hlexes, hread⟩ := exists_joined connects_or lexes_or separates_or hempty
        fun c hc hfull => (exists_readsAll cs hw c hc hfull).elim fun _ hts => hts.disjunct
      exact ⟨ts, hlexes, (fun h => by cases h), hread⟩

theorem exists_readsAll : (cs : List Condition) → AllWellNamed cs →
    ∀ c ∈ cs, c.isEmpty = false → ∃ ts, Reads I entity c ts
  | [], _ => fun c hc => by cases hc
  | c :: rest, hw => List.forall_mem_cons.mpr
      ⟨fun hempty => exists_reads c hempty hw.1, exists_readsAll rest hw.2⟩

end

/-- The text of a condition, printed behind any values and read with the precedence of SQL, says what
the condition says. -/
theorem truth_read_printAfter {c : Condition} (hempty : c.isEmpty = false) (hw : c.WellNamed)
    (before : List Json) (I : Interpretation ε ρ) (entity : ε) (around : List ρ) :
    (Formula.read? (c.template.printAfter before).2 (c.template.printAfter before).1).map
      (Formula.truth I entity around) = some (c.truth I entity around) := by
  obtain ⟨ts, hts⟩ : ∃ ts, Reads I entity c ts := exists_reads c hempty hw
  have hlex := hts.lexes before [] [] (.inl rfl)
  obtain ⟨before', f, hread, htruth⟩ := hts.runs [] none []
  have hend : expectConnective [] before' f [] = some (joined .or before' f) := by
    rw [expectConnective]
    rfl
  rw [List.append_nil, List.append_nil, lex_nil, Option.map_some, List.append_nil] at hlex
  rw [List.append_nil, hend] at hread
  have hformula : Formula.read? (c.template.printAfter before).2 (c.template.printAfter before).1 =
      some (joined .or before' f) := by
    rw [Formula.read?, Sql.Template.printAfter, hlex]
    exact hread
  rw [hformula, Option.map_some, truth_joined_or, htruth around]
  rfl

/-- A disjunction under a conjunction, beside an empty part and a subquery; a column has keywords in
its name. -/
def keywordsInQuotes : Condition :=
  .all [.any [.compare "\"a) OR (b\"" .equal (.string "x"), .nullness "entries.title" true], .all [],
    .existsRow "entry_data" "entry_data.entry_id = entries.id"
      (.any [.range "entry_data.data" (.string "a") (.string "c") false, .never])]

/-- Its text says what it says, also behind another value. -/
theorem truth_read_keywordsInQuotes :
    (keywordsInQuotes.isEmpty = false ∧ keywordsInQuotes.WellNamed) ∧
      (keywordsInQuotes.template.printAfter [.null]).1 =
        "(\"a) OR (b\" = $2 OR entries.title IS NULL) AND EXISTS (SELECT 1 FROM entry_data WHERE " ++
          "entry_data.entry_id = entries.id AND (entry_data.data BETWEEN $3 AND $4 OR 1=0))" ∧
      (Formula.read? (keywordsInQuotes.template.printAfter [.null]).2
        (keywordsInQuotes.template.printAfter [.null]).1).map
          (Formula.truth (.ofTexts [[("entry_data.data", "b")]]) [("entries.title", "A")] []) =
        some (keywordsInQuotes.truth (.ofTexts [[("entry_data.data", "b")]])
          [("entries.title", "A")] []) := by
  have hw : keywordsInQuotes.WellNamed :=
    ⟨⟨⟨⟨_, rfl⟩, rfl⟩, ⟨_, rfl⟩, trivial⟩, trivial,
      ⟨⟨_, rfl⟩, ⟨"entry_data.entry_id", "entries.id", ⟨_, rfl⟩, ⟨_, rfl⟩, by decide⟩,
        ⟨⟨_, rfl⟩, trivial, trivial⟩⟩, trivial⟩
  exact ⟨⟨rfl, hw⟩, rfl, truth_read_printAfter rfl hw [.null] _ _ _⟩

end Condition

end FilterQuery
