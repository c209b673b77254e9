import FilterQuery.Proofs.Identifier
import FilterQuery.Sql.Template

/-!
# Tokens of SQL text

The text of a condition is cut into tokens from the left. A name is as long as possible: it goes on
over letters, digits, underscores, dollar signs and dots, and over any characters in double quotes;
what is cut off must read as an identifier. A placeholder stands for the value with its number, so
tokens carry values and no numbers of placeholders. Keywords are names here; a reader tells them
from columns by their place.
-/

namespace FilterQuery.Sql

open Identifier

/-- A token of SQL text. -/
inductive Token where
  | name (text : String)
  | value (v : Json)
  | number (n : Nat)
  | symbol (text : String)
  | opening
  | closing
  | comma

namespace Token

/-- A character of a comparison symbol. -/
def isSymbol (c : Char) : Bool := c == '=' || c == '!' || c == '<' || c == '>'

/-- Cuts off a name, inside or outside of quotes. A quote written twice closes and opens again. -/
def spanName : Bool → List Char → List Char × List Char
  | _, [] => ([], [])
  | inQuotes, c :: cs =>
    if inQuotes || c == '"' || c == '.' || isInner c then
      let (front, rest) := spanName (inQuotes != (c == '"')) cs
      (c :: front, rest)
    else ([], c :: cs)

/-- Reads the token that starts with the given character: the token and what follows it. -/
def read? (params : List Json) (c : Char) (cs : List Char) : Option (Token × List Char) :=
  if c = '(' then some (opening, cs)
  else if c = ')' then some (closing, cs)
  else if c = ',' then some (comma, cs)
  else if c = '$' then
    match Text.decimalValue (Text.spanDigits cs).1 with
    | 0 => none
    | n + 1 => params[n]?.map fun v => (value v, (Text.spanDigits cs).2)
  else if c.isDigit then
    some (number (Text.decimalValue (c :: (Text.spanDigits cs).1)), (Text.spanDigits cs).2)
  else if isSymbol c then
    some (symbol (String.ofList (c :: cs.takeWhile isSymbol)), cs.dropWhile isSymbol)
  else
    match parse (String.ofList (spanName false (c :: cs)).1) with
    | .ok _ => some (name (String.ofList (spanName false (c :: cs)).1),
        (spanName false (c :: cs)).2)
    | .error _ => none

theorem length_spanName (inQuotes : Bool) (cs : List Char) :
    (spanName inQuotes cs).1.length + (spanName inQuotes cs).2.length = cs.length := by
  induction cs generalizing inQuotes with
  | nil => rfl
  | cons c cs ih =>
      rw [spanName]
      split
      · have h := ih (inQuotes != (c == '"'))
        simp only [List.length_cons]
        omega
      · simp

theorem length_spanDigits_le (cs : List Char) : (Text.spanDigits cs).2.length ≤ cs.length :=
  (List.dropWhile_sublist _).length_le

/-- A token uses up its first character at least. -/
theorem length_le_of_read? {params : List Json} {c : Char} {cs rest : List Char} {t : Token}
    (h : read? params c cs = some (t, rest)) : rest.length ≤ cs.length := by
  unfold read? at h
  split at h
  · cases h
    exact Nat.le_refl _
  split at h
  · cases h
    exact Nat.le_refl _
  split at h
  · cases h
    exact Nat.le_refl _
  split at h
  · split at h
    · cases h
    · obtain ⟨v, -, hv⟩ := Option.map_eq_some_iff.mp h
      cases hv
      exact length_spanDigits_le cs
  split at h
  · cases h
    exact length_spanDigits_le cs
  split at h
  · cases h
    exact (List.dropWhile_sublist _).length_le
  split at h
  · next i hi =>
    cases h
    have hlength := length_spanName false (c :: cs)
    have hne : (spanName false (c :: cs)).1 ≠ [] := by
      intro hnil
      rw [hnil] at hi
      cases hi
    have hpos := List.length_pos_iff.mpr hne
    simp only [List.length_cons] at hlength
    omega
  · cases h

end Token

/-- Cuts SQL text into tokens. Spaces only separate them. -/
def lex (params : List Json) : List Char → Option (List Token)
  | [] => some []
  | c :: cs =>
    if c = ' ' then lex params cs
    else
      match h : Token.read? params c cs with
      | none => none
      | some (t, rest) =>
        have : rest.length < cs.length + 1 := Nat.lt_succ_of_le (Token.length_le_of_read? h)
        (lex params rest).map (t :: ·)
termination_by cs => cs.length

variable {params : List Json} {cs rest : List Char}

/-- What may follow a token that could go on otherwise. -/
def EndsToken (rest : List Char) : Prop :=
  rest = [] ∨ ∃ c next, rest = c :: next ∧ (c = ' ' ∨ c = ')' ∨ c = ',')

@[simp] theorem lex_nil : lex params [] = some [] := by rw [lex]

@[simp] theorem lex_space : lex params (' ' :: cs) = lex params cs := by rw [lex, if_pos rfl]

theorem lex_of_read? {c : Char} {t : Token} (hspace : c ≠ ' ')
    (h : Token.read? params c cs = some (t, rest)) :
    lex params (c :: cs) = (lex params rest).map (t :: ·) := by
  rw [lex, if_neg hspace]
  split
  · next hnone =>
    rw [h] at hnone
    cases hnone
  · next t' rest' hsome =>
    rw [h] at hsome
    cases hsome
    rfl

@[simp] theorem lex_opening : lex params ('(' :: cs) = (lex params cs).map (.opening :: ·) :=
  lex_of_read? (by decide) rfl

@[simp] theorem lex_closing : lex params (')' :: cs) = (lex params cs).map (.closing :: ·) :=
  lex_of_read? (by decide) rfl

@[simp] theorem lex_comma : lex params (',' :: cs) = (lex params cs).map (.comma :: ·) :=
  lex_of_read? (by decide) rfl

/-- A run of characters that a token may take stops at the end of the token. -/
theorem takeWhile_of_endsToken {p : Char → Bool} (hr : EndsToken rest)
    (hp : p ' ' = false ∧ p ')' = false ∧ p ',' = false) :
    rest.takeWhile p = [] ∧ rest.dropWhile p = rest := by
  obtain ⟨hspace, hclosing, hcomma⟩ := hp
  rcases hr with rfl | ⟨c, next, rfl, rfl | rfl | rfl⟩
  · exact ⟨rfl, rfl⟩
  · simp [hspace]
  · simp [hclosing]
  · simp [hcomma]

/-- A placeholder is the value with its number. -/
theorem lex_placeholder {n : Nat} {v : Json} (hv : params[n]? = some v) (hr : EndsToken rest) :
    lex params ((Template.placeholder (n + 1)).toList ++ rest) =
      (lex params rest).map (.value v :: ·) := by
  have hdigits : ∀ c ∈ Text.decimalDigits (n + 1), c.isDigit = true := fun c hc =>
    Nat.isDigit_of_mem_toDigits (by decide) (by decide) hc
  have hvalue : Text.decimalValue (Text.decimalDigits (n + 1)) = n + 1 :=
    Nat.ofDigitChars_ten_toDigits
  obtain ⟨htake, hdrop⟩ := takeWhile_of_endsToken (p := Char.isDigit) hr (by decide)
  have hspan : Text.spanDigits (Text.decimalDigits (n + 1) ++ rest) =
      (Text.decimalDigits (n + 1), rest) := by
    rw [Text.spanDigits, List.takeWhile_append_of_pos hdigits,
      List.dropWhile_append_of_pos hdigits, htake, hdrop, List.append_nil]
  have htext : (Template.placeholder (n + 1)).toList ++ rest =
      '$' :: (Text.decimalDigits (n + 1) ++ rest) := by
    simp [Template.placeholder, Text.ofNat]
  rw [htext]
  apply lex_of_read? (by decide)
  have hread : Token.read? params '$' (Text.decimalDigits (n + 1) ++ rest) =
      params[n]?.map fun v => (.value v, rest) := by
    rw [Token.read?]
    simp [hspan, hvalue]
  rw [hread, hv]
  rfl

/-- The symbol of a comparison ends before a space. -/
theorem lex_symbol {c : Char} {front : List Char} (hc : Token.isSymbol c = true)
    (hfront : ∀ d ∈ front, Token.isSymbol d = true) (hr : EndsToken rest) :
    lex params (c :: (front ++ rest)) =
      (lex params rest).map (.symbol (String.ofList (c :: front)) :: ·) := by
  obtain ⟨htake, hdrop⟩ := takeWhile_of_endsToken (p := Token.isSymbol) hr (by decide)
  have hchar : c = '=' ∨ c = '!' ∨ c = '<' ∨ c = '>' := by
    simpa [Token.isSymbol, or_assoc] using hc
  have hread : Token.read? params c (front ++ rest) =
      some (.symbol (String.ofList (c :: (front ++ rest).takeWhile Token.isSymbol)),
        (front ++ rest).dropWhile Token.isSymbol) := by
    rcases hchar with rfl | rfl | rfl | rfl
    all_goals rfl
  apply lex_of_read?
  · rcases hchar with rfl | rfl | rfl | rfl
    all_goals decide
  · rw [hread, List.takeWhile_append_of_pos hfront, List.dropWhile_append_of_pos hfront, htake,
      hdrop, List.append_nil]

/-- A single digit is a number of its own when no digit follows. -/
theorem lex_digit {c : Char} (hc : c.isDigit = true) (hstop : Text.spanDigits rest = ([], rest)) :
    lex params (c :: rest) = (lex params rest).map (.number (Text.decimalValue [c]) :: ·) := by
  have hne : c ≠ ' ' ∧ c ≠ '(' ∧ c ≠ ')' ∧ c ≠ ',' ∧ c ≠ '$' := by
    refine ⟨?_, ?_, ?_, ?_, ?_⟩
    all_goals
      rintro rfl
      cases hc
  obtain ⟨hspace, hopening, hclosing, hcomma, hdollar⟩ := hne
  apply lex_of_read? hspace
  rw [Token.read?, if_neg hopening, if_neg hclosing, if_neg hcomma, if_neg hdollar, if_pos hc, hstop]

/-- The two constants are written as comparisons of numbers. -/
theorem lex_constant (b : Bool) (hr : EndsToken rest) :
    lex params ((if b then "1=1" else "1=0").toList ++ rest) =
      (lex params rest).map
        ([.number 1, .symbol "=", .number (if b then 1 else 0)] ++ ·) := by
  obtain ⟨htake, hdrop⟩ := takeWhile_of_endsToken (p := Char.isDigit) hr (by decide)
  have hspan : Text.spanDigits rest = ([], rest) := by rw [Text.spanDigits, htake, hdrop]
  have hsymbol : ∀ c, Token.isSymbol c = false → lex params ('=' :: c :: rest) =
      (lex params (c :: rest)).map (.symbol "=" :: ·) := by
    intro c hc
    apply lex_of_read? (by decide)
    change some (Token.symbol (String.ofList ('=' :: (c :: rest).takeWhile Token.isSymbol)),
      (c :: rest).dropWhile Token.isSymbol) = _
    simp [hc]
  cases b with
  | true =>
      change lex params ('1' :: '=' :: '1' :: rest) = _
      rw [lex_digit (by decide) rfl, hsymbol '1' (by decide), lex_digit (by decide) hspan,
        Option.map_map, Option.map_map]
      rfl
  | false =>
      change lex params ('1' :: '=' :: '0' :: rest) = _
      rw [lex_digit (by decide) rfl, hsymbol '0' (by decide), lex_digit (by decide) hspan,
        Option.map_map, Option.map_map]
      rfl

namespace Token

theorem spanName_of_endsToken (hr : EndsToken rest) : spanName false rest = ([], rest) := by
  rcases hr with rfl | ⟨c, next, rfl, rfl | rfl | rfl⟩
  · rfl
  · rfl
  · rfl
  · rfl

theorem spanName_inner_append {front : List Char} (h : ∀ c ∈ front, isInner c = true) :
    spanName false (front ++ rest) =
      (front ++ (spanName false rest).1, (spanName false rest).2) := by
  induction front with
  | nil => rfl
  | cons c front ih =>
      have hc : isInner c = true := h c (by simp)
      have hquote : (c == '"') = false := by simpa using (Part.ne_of_isInner hc).2.1
      rw [List.cons_append, spanName, hc, hquote]
      simp [ih fun d hd => h d (by simp [hd])]

/-- Inside of quotes a name goes on over anything, and over a doubled quote. -/
theorem spanName_doubled_append (name : List Char) :
    spanName true (Part.doubled name ++ '"' :: rest) =
      (Part.doubled name ++ '"' :: (spanName false rest).1, (spanName false rest).2) := by
  induction name with
  | nil => rfl
  | cons c name ih =>
      by_cases hc : c = '"'
      · simp [Part.doubled, hc, spanName, ih]
      · have hquote : (c == '"') = false := by simpa using hc
        simp [Part.doubled, hc, spanName, hquote, ih]

theorem spanName_part_append {p : Part} (h : p.IsWellFormed) :
    spanName false (p.chars ++ rest) =
      (p.chars ++ (spanName false rest).1, (spanName false rest).2) := by
  cases p with
  | bare name => exact spanName_inner_append fun c hc => Part.isInner_of_mem h hc
  | quoted name =>
      have hopen : spanName false ('"' :: (Part.doubled name.toList ++ '"' :: rest)) =
          ('"' :: (spanName true (Part.doubled name.toList ++ '"' :: rest)).1,
            (spanName true (Part.doubled name.toList ++ '"' :: rest)).2) := rfl
      rw [Part.chars, List.cons_append, List.append_assoc, List.singleton_append, hopen,
        spanName_doubled_append]
      simp

/-- A written identifier is cut off as a whole. -/
theorem spanName_joinedChars_append {ps : List Part} (h : ∀ p ∈ ps, p.IsWellFormed)
    (hr : EndsToken rest) :
    spanName false (joinedChars ps ++ rest) = (joinedChars ps, rest) := by
  induction ps with
  | nil => exact spanName_of_endsToken hr
  | cons p ps ih =>
      have hp : p.IsWellFormed := h p (by simp)
      have hps : ∀ q ∈ ps, q.IsWellFormed := fun q hq => h q (by simp [hq])
      by_cases hne : ps = []
      · rw [hne, joinedChars, spanName_part_append hp, spanName_of_endsToken hr, List.append_nil]
      · have hdot : spanName false ('.' :: (joinedChars ps ++ rest)) =
            ('.' :: (spanName false (joinedChars ps ++ rest)).1,
              (spanName false (joinedChars ps ++ rest)).2) := rfl
        rw [joinedChars_cons p hne, List.append_assoc, spanName_part_append hp, List.cons_append,
          hdot, ih hps]

end Token

theorem isDigit_eq_false_of_isStart {c : Char} (h : isStart c = true) : c.isDigit = false := by
  apply Bool.eq_false_iff.mpr
  intro hdigit
  have hstart : c = '_' ∨ (65 ≤ c.val ∧ c.val ≤ 90) ∨ (97 ≤ c.val ∧ c.val ≤ 122) := by
    change (c == '_' || (decide (65 ≤ c.val ∧ c.val ≤ 90) ||
      (decide (97 ≤ c.val) && decide (c.val ≤ 122)))) = true at h
    simpa using h
  have hrange : 48 ≤ c.val ∧ c.val ≤ 57 := by simpa [Char.isDigit] using hdigit
  simp only [UInt32.le_iff_toNat_le] at hstart hrange
  rcases hstart with rfl | hupper | hlower
  · revert hrange
    decide
  · simp at hupper hrange
    omega
  · simp at hlower hrange
    omega

/-- A name starts with a quote or a start character. -/
theorem exists_toList_eq {s : String} (h : IsText s) :
    ∃ c cs, s.toList = c :: cs ∧ (c = '"' ∨ isStart c = true) := by
  obtain ⟨i, hi⟩ := h
  obtain ⟨hs, hne, hwell⟩ := sql_of_parse hi
  obtain ⟨p, ps, hparts⟩ := List.exists_cons_of_ne_nil hne
  have hfirst : ∃ c cs, p.chars = c :: cs ∧ (c = '"' ∨ isStart c = true) := by
    cases p with
    | quoted name => exact ⟨_, _, rfl, .inl rfl⟩
    | bare name =>
        obtain ⟨c, inner, hname, hstart, -⟩ := hwell (.bare name) (by simp [hparts])
        exact ⟨c, inner, hname, .inr hstart⟩
  obtain ⟨c, cs, hchars, hc⟩ := hfirst
  have htext : s.toList = joinedChars (p :: ps) := by rw [← hs, sql, hparts, String.toList_ofList]
  by_cases hps : ps = []
  · exact ⟨c, cs, by rw [htext, hps, joinedChars, hchars], hc⟩
  · exact ⟨c, cs ++ '.' :: joinedChars ps, by rw [htext, joinedChars_cons p hps, hchars]; rfl, hc⟩

/-- An identifier that ends is one token. -/
theorem lex_name {s : String} (h : IsText s) (hr : EndsToken rest) :
    lex params (s.toList ++ rest) = (lex params rest).map (.name s :: ·) := by
  obtain ⟨c, cs, hcs, hc⟩ := exists_toList_eq h
  obtain ⟨i, hi⟩ := h
  obtain ⟨hs, -, hwell⟩ := sql_of_parse hi
  have hspan : Token.spanName false (s.toList ++ rest) = (s.toList, rest) := by
    rw [← hs, sql, String.toList_ofList]
    exact Token.spanName_joinedChars_append hwell hr
  have hne : c ≠ ' ' ∧ c ≠ '(' ∧ c ≠ ')' ∧ c ≠ ',' ∧ c ≠ '$' := by
    refine ⟨?_, ?_, ?_, ?_, ?_⟩
    all_goals
      rintro rfl
      revert hc
      decide
  have hsymbol : Token.isSymbol c = false := by
    apply Bool.eq_false_iff.mpr
    intro hsymbol
    have hchar : c = '=' ∨ c = '!' ∨ c = '<' ∨ c = '>' := by
      simpa [Token.isSymbol, or_assoc] using hsymbol
    rcases hchar with rfl | rfl | rfl | rfl
    all_goals
      revert hc
      decide
  have hdigit : c.isDigit = false := by
    rcases hc with rfl | hstart
    · rfl
    · exact isDigit_eq_false_of_isStart hstart
  obtain ⟨hspace, hopening, hclosing, hcomma, hdollar⟩ := hne
  rw [hcs, List.cons_append] at hspan ⊢
  apply lex_of_read? hspace
  rw [Token.read?, if_neg hopening, if_neg hclosing, if_neg hcomma, if_neg hdollar,
    if_neg (by simp [hdigit]), if_neg (by simp [hsymbol]), hspan, ← hcs, String.ofList_toList, hi]

end FilterQuery.Sql
