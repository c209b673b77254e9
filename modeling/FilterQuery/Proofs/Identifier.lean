import FilterQuery.Identifier
import FilterQuery.Proofs.Outcome

/-!
# Reading and writing identifiers

A part that is well formed is read back from its written form, whatever follows it, as long as that
is the end or a dot. Conversely, what is read from a text writes the same text. The written forms of
two part lists can therefore be compared part by part.

Main statements: `parse_sql` and `sql_of_parse` make reading and writing inverse to each other,
`parse_append` reads a qualified name part by part, and `prefix_dot_iff` says when one written
identifier, followed by a dot, is a prefix of another.
-/

namespace FilterQuery.Identifier

/-- The rest behind a part: nothing, or a dot and more. -/
def EndsPart (rest : List Char) : Prop := rest = [] ∨ ∃ next, rest = '.' :: next

namespace Part

/-- The rules for one part. -/
def IsWellFormed : Part → Prop
  | bare name => ∃ c inner, name.toList = c :: inner ∧ isStart c = true ∧
      ∀ d ∈ inner, isInner d = true
  | quoted name => name.toList ≠ [] ∧ '\x00' ∉ name.toList

theorem isInner_of_isStart {c : Char} (h : isStart c = true) : isInner c = true := by
  simp only [isStart, isInner, Char.isAlphanum, Bool.or_eq_true] at *
  rcases h with h | h
  · exact .inl (.inl h)
  · exact .inr (.inl h)

/-- No character of a bare part is a dot, a quote or NUL. -/
theorem ne_of_isInner {c : Char} (h : isInner c = true) : c ≠ '.' ∧ c ≠ '"' ∧ c ≠ '\x00' := by
  refine ⟨?_, ?_, ?_⟩ <;> rintro rfl <;> exact absurd h (by decide)

/-- A well-formed bare part consists of inner characters. -/
theorem isInner_of_mem {name : String} (h : (bare name).IsWellFormed) {c : Char}
    (hc : c ∈ name.toList) : isInner c = true := by
  obtain ⟨first, inner, he, hs, hi⟩ := h
  rw [he, List.mem_cons] at hc
  rcases hc with rfl | hc
  · exact isInner_of_isStart hs
  · exact hi c hc

@[simp] theorem mem_doubled {c : Char} {cs : List Char} : c ∈ doubled cs ↔ c ∈ cs := by
  induction cs with
  | nil => rfl
  | cons d cs ih =>
      by_cases hd : d = '"' <;> simp [doubled, hd, ih]

theorem undouble?_doubled_append (name : List Char) {rest : List Char}
    (h : rest.head? ≠ some '"') : undouble? (doubled name ++ '"' :: rest) = some (name, rest) := by
  induction name with
  | nil =>
      cases rest with
      | nil => rfl
      | cons c rest =>
          have hc : c ≠ '"' := by simpa using h
          simp [doubled, undouble?, hc]
  | cons c name ih =>
      by_cases hc : c = '"'
      · simp [doubled, undouble?, hc, ih]
      · simp [doubled, undouble?, hc, ih]

theorem eq_doubled_of_undouble? {cs name rest : List Char}
    (h : undouble? cs = some (name, rest)) : cs = doubled name ++ '"' :: rest := by
  induction cs using undouble?.induct generalizing name with
  | case1 => simp [undouble?] at h
  | case2 cs ih =>
      simp only [undouble?, Option.map_eq_some_iff, Prod.mk.injEq, Prod.exists] at h
      obtain ⟨inner, tail, hi, rfl, rfl⟩ := h
      simp [doubled, ih hi]
  | case3 cs hne =>
      simp only [undouble?, if_true, Option.some.injEq, Prod.mk.injEq] at h
      obtain ⟨rfl, rfl⟩ := h
      rfl
  | case4 c cs hne hc ih =>
      simp only [undouble?, hc, if_false, Option.map_eq_some_iff, Prod.mk.injEq,
        Prod.exists] at h
      obtain ⟨inner, tail, hi, rfl, rfl⟩ := h
      simp [doubled, hc, ih hi]

theorem chars_ne_nil {p : Part} (h : p.IsWellFormed) : p.chars ≠ [] := by
  cases p with
  | bare name =>
      obtain ⟨c, inner, he, -, -⟩ := h
      simp [chars, he]
  | quoted name => simp [chars]

theorem read_chars_append {p : Part} (h : p.IsWellFormed) {rest : List Char}
    (hr : EndsPart rest) : read (p.chars ++ rest) = .ok (p, rest) := by
  cases p with
  | bare name =>
      have hdot : ∀ c ∈ name.toList, (c != '.') = true := by
        intro c hc
        simpa using (ne_of_isInner (isInner_of_mem h hc)).1
      have hstop : rest.takeWhile (· != '.') = [] ∧ rest.dropWhile (· != '.') = rest := by
        rcases hr with rfl | ⟨next, rfl⟩
        · exact ⟨rfl, rfl⟩
        · exact ⟨by simp, by simp⟩
      have htake : (name.toList ++ rest).takeWhile (· != '.') = name.toList := by
        rw [List.takeWhile_append_of_pos hdot, hstop.1, List.append_nil]
      have hdrop : (name.toList ++ rest).dropWhile (· != '.') = rest := by
        rw [List.dropWhile_append_of_pos hdot, hstop.2]
      obtain ⟨c, inner, he, hs, hi⟩ := h
      have hread : read (name.toList ++ rest) = readBare (name.toList ++ rest) := by
        have hq : c ≠ '"' := (ne_of_isInner (isInner_of_isStart hs)).2.1
        rw [he, List.cons_append]
        unfold read
        split
        · next heq => exact absurd (List.cons.inj heq).1 hq
        · rfl
      have hfind : inner.find? (!isInner ·) = none := by
        simpa [List.find?_eq_none] using hi
      rw [chars, hread, readBare, htake, hdrop]
      simp only [he, hs, hfind, Bool.not_true, Bool.false_eq_true, if_false]
      rw [← he, String.ofList_toList]
  | quoted name =>
      have hq : rest.head? ≠ some '"' := by
        rcases hr with rfl | ⟨next, rfl⟩ <;> simp
      have hu := undouble?_doubled_append name.toList hq
      rw [chars, List.cons_append, List.append_assoc, List.singleton_append, read, readQuoted, hu]
      cases hn : name.toList with
      | nil => exact absurd hn h.1
      | cons c cs => simp only [← hn, String.ofList_toList]

theorem eq_of_readQuoted {cs rest : List Char} {p : Part} (hnul : '\x00' ∉ cs)
    (h : readQuoted cs = .ok (p, rest)) : '"' :: cs = p.chars ++ rest ∧ p.IsWellFormed := by
  unfold readQuoted at h
  split at h
  · cases h
  · cases h
  · next name tail hne hu =>
      simp only [Except.ok.injEq, Prod.mk.injEq] at h
      obtain ⟨rfl, rfl⟩ := h
      have he := eq_doubled_of_undouble? hu
      refine ⟨by simp [chars, he], by simpa using hne, ?_⟩
      intro hmem
      apply hnul
      rw [he]
      apply List.mem_append_left
      simpa using hmem

theorem eq_of_readBare {cs rest : List Char} {p : Part} (h : readBare cs = .ok (p, rest)) :
    cs = p.chars ++ rest ∧ p.IsWellFormed := by
  simp only [readBare] at h
  cases hname : cs.takeWhile (· != '.') with
  | nil => simp [hname] at h
  | cons c inner =>
      simp only [hname] at h
      split at h
      · cases h
      · next hs =>
        split at h
        · cases h
        · next hfind =>
          simp only [Except.ok.injEq, Prod.mk.injEq] at h
          obtain ⟨rfl, rfl⟩ := h
          refine ⟨?_, c, inner, String.toList_ofList, ?_, ?_⟩
          · rw [chars, String.toList_ofList, ← hname, List.takeWhile_append_dropWhile]
          · simpa using hs
          · simpa [List.find?_eq_none] using hfind

/-- What is read from a text writes the same text. -/
theorem eq_of_read {cs rest : List Char} {p : Part} (hnul : '\x00' ∉ cs)
    (h : read cs = .ok (p, rest)) : cs = p.chars ++ rest ∧ p.IsWellFormed := by
  unfold read at h
  split at h
  · exact eq_of_readQuoted (fun hmem => hnul (List.mem_cons_of_mem _ hmem)) h
  · exact eq_of_readBare h

end Part

/-- There is a part, and every part keeps the rules. -/
def IsWellFormed (parts : List Part) : Prop := parts ≠ [] ∧ ∀ p ∈ parts, p.IsWellFormed

theorem IsWellFormed.append {ps qs : List Part} (hp : IsWellFormed ps) (hq : IsWellFormed qs) :
    IsWellFormed (ps ++ qs) := by
  refine ⟨by simp [hp.1], ?_⟩
  intro p hmem
  rcases List.mem_append.mp hmem with h | h
  · exact hp.2 p h
  · exact hq.2 p h

theorem IsWellFormed.tail {p : Part} {ps : List Part} (h : IsWellFormed (p :: ps))
    (hne : ps ≠ []) : IsWellFormed ps :=
  ⟨hne, fun q hq => h.2 q (List.mem_cons_of_mem _ hq)⟩

/-- The written form of several parts: the first one, and the others behind a dot. -/
theorem joinedChars_cons (p : Part) {ps : List Part} (h : ps ≠ []) :
    joinedChars (p :: ps) = p.chars ++ '.' :: joinedChars ps := by
  cases ps with
  | nil => exact absurd rfl h
  | cons q ps => rfl

theorem joinedChars_append {ps qs : List Part} (hp : ps ≠ []) (hq : qs ≠ []) :
    joinedChars (ps ++ qs) = joinedChars ps ++ '.' :: joinedChars qs := by
  induction ps with
  | nil => exact absurd rfl hp
  | cons p ps ih =>
      cases ps with
      | nil => exact joinedChars_cons p hq
      | cons q ps =>
          rw [List.cons_append, joinedChars_cons p (by simp), ih (by simp),
            joinedChars_cons p (by simp), List.append_assoc, List.cons_append]

theorem joinedChars_ne_nil {ps : List Part} (h : IsWellFormed ps) : joinedChars ps ≠ [] := by
  cases ps with
  | nil => exact absurd rfl h.1
  | cons p ps =>
      have hp : p.chars ≠ [] := Part.chars_ne_nil (h.2 p (by simp))
      cases ps with
      | nil => exact hp
      | cons q ps => simp [joinedChars, hp]

/-- Reading goes part by part. The fuel only has to exceed the number of parts. -/
theorem readParts_joinedChars (whole : String) {ps : List Part} (h : IsWellFormed ps) {fuel : Nat}
    (hf : ps.length ≤ fuel) : readParts whole fuel (joinedChars ps) = .ok ps := by
  induction ps generalizing fuel with
  | nil => exact absurd rfl h.1
  | cons p ps ih =>
      obtain ⟨fuel, rfl⟩ : ∃ n, fuel = n + 1 := ⟨fuel - 1, by simp at hf; omega⟩
      have hp := h.2 p (by simp)
      cases ps with
      | nil =>
          have hread := Part.read_chars_append hp (.inl rfl)
          rw [List.append_nil] at hread
          simp only [joinedChars, readParts, hread]
          rfl
      | cons q ps =>
          have hq : IsWellFormed (q :: ps) := h.tail (by simp)
          have hread := Part.read_chars_append hp (.inr ⟨joinedChars (q :: ps), rfl⟩)
          have hrest := ih hq (by simpa using hf)
          obtain ⟨c, cs, hc⟩ := List.exists_cons_of_ne_nil (joinedChars_ne_nil hq)
          rw [joinedChars_cons p (by simp), readParts, hread]
          rw [hc] at hrest ⊢
          exact Outcome.bind_eq_ok_iff.mpr ⟨(p, '.' :: c :: cs), rfl,
            Outcome.bind_eq_ok_iff.mpr ⟨q :: ps, hrest, rfl⟩⟩

/-- What is read part by part writes the text. -/
theorem eq_of_readParts {whole : String} {fuel : Nat} {cs : List Char} {ps : List Part}
    (hnul : '\x00' ∉ cs) (h : readParts whole fuel cs = .ok ps) :
    cs = joinedChars ps ∧ IsWellFormed ps := by
  induction fuel generalizing cs ps with
  | zero => cases h
  | succ fuel ih =>
      rw [readParts, Outcome.bind_eq_ok_iff] at h
      obtain ⟨⟨p, rest⟩, hread, h⟩ := h
      obtain ⟨he, hp⟩ := Part.eq_of_read hnul hread
      dsimp only at h
      split at h
      · cases h
        rw [List.append_nil] at he
        exact ⟨he, by simp, by simpa using hp⟩
      · cases h
      · next next _ =>
        obtain ⟨qs, hnext, h⟩ := Outcome.bind_eq_ok_iff.mp h
        cases h
        have hn : '\x00' ∉ next := fun hmem => hnul (by rw [he]; simp [hmem])
        obtain ⟨hq, hqs⟩ := ih hn hnext
        rw [joinedChars_cons p hqs.1, ← hq]
        exact ⟨he, by simp, by simpa using ⟨hp, hqs.2⟩⟩
      · cases h

theorem parse_of_read {s : String} {i : Identifier} (h : read s = .ok i) : parse s = .ok i := by
  rw [parse, h]
  rfl

theorem read_of_parse {s : String} {i : Identifier} (h : parse s = .ok i) : read s = .ok i := by
  unfold parse at h
  cases hr : read s with
  | error e => rw [hr] at h; cases h
  | ok j => rw [hr] at h; cases h; rfl

/-- An identifier writes the text that it was read from. -/
theorem sql_of_parse {s : String} {i : Identifier} (h : parse s = .ok i) :
    i.sql = s ∧ IsWellFormed i.parts := by
  have hr := read_of_parse h
  unfold read at hr
  split at hr
  · cases hr
  · split at hr
    · cases hr
    · next hn =>
      have hnul : '\x00' ∉ s.toList := by simpa using hn
      cases hp : readParts s (s.toList.length + 1) s.toList with
      | error e => rw [hp] at hr; cases hr
      | ok ps =>
          rw [hp] at hr
          cases hr
          obtain ⟨he, hw⟩ := eq_of_readParts hnul hp
          exact ⟨by rw [sql, ← he, String.ofList_toList], hw⟩

theorem nul_notMem_chars {p : Part} (h : p.IsWellFormed) : '\x00' ∉ p.chars := by
  cases p with
  | bare name =>
      intro hmem
      exact (Part.ne_of_isInner (Part.isInner_of_mem h hmem)).2.2 rfl
  | quoted name => simpa [Part.chars] using h.2

theorem nul_notMem_joinedChars {ps : List Part} (h : ∀ p ∈ ps, p.IsWellFormed) :
    '\x00' ∉ joinedChars ps := by
  induction ps with
  | nil => simp [joinedChars]
  | cons p ps ih =>
      have hp := nul_notMem_chars (h p (by simp))
      have hps := ih (fun q hq => h q (List.mem_cons_of_mem _ hq))
      cases ps with
      | nil => exact hp
      | cons q ps => simpa [joinedChars] using ⟨hp, hps⟩

theorem length_le_length_joinedChars {ps : List Part} (h : ∀ p ∈ ps, p.IsWellFormed) :
    ps.length ≤ (joinedChars ps).length := by
  induction ps with
  | nil => simp
  | cons p ps ih =>
      have hp := List.length_pos_iff.mpr (Part.chars_ne_nil (h p (by simp)))
      have hps := ih (fun q hq => h q (List.mem_cons_of_mem _ hq))
      cases ps with
      | nil => exact hp
      | cons q ps =>
          simp only [joinedChars, List.length_cons, List.length_append] at hps ⊢
          omega

/-- A well-formed identifier is read back from what it writes. -/
theorem parse_sql {ps : List Part} (h : IsWellFormed ps) : parse (sql ⟨ps⟩) = .ok ⟨ps⟩ := by
  have hne : (sql ⟨ps⟩).isEmpty = false := by
    simpa [sql] using joinedChars_ne_nil h
  have hnul : (sql ⟨ps⟩).toList.contains '\x00' = false := by
    simpa [sql] using nul_notMem_joinedChars h.2
  have hlen : ps.length ≤ (sql ⟨ps⟩).toList.length + 1 := by
    have := length_le_length_joinedChars h.2
    simp only [sql, String.toList_ofList]
    omega
  have hparts := readParts_joinedChars (sql ⟨ps⟩) h hlen
  apply parse_of_read
  simp only [read, hne, hnul, Bool.false_eq_true, if_false]
  rw [show (sql ⟨ps⟩).toList = joinedChars ps from String.toList_ofList] at *
  rw [hparts]
  rfl

/-- The text reads as an identifier. -/
def IsText (s : String) : Prop := ∃ i, parse s = .ok i

theorem qualified_eq_ok_iff {t c : String} {i : Identifier} :
    qualified t c = .ok i ↔
      ∃ it ic, parse t = .ok it ∧ parse c = .ok ic ∧ i = ⟨it.parts ++ ic.parts⟩ := by
  unfold qualified
  constructor
  · intro h
    obtain ⟨it, ht, h⟩ := Outcome.bind_eq_ok_iff.mp h
    obtain ⟨ic, hc, h⟩ := Outcome.bind_eq_ok_iff.mp h
    exact ⟨it, ic, ht, hc, (Except.ok.inj h).symm⟩
  · rintro ⟨it, ic, ht, hc, rfl⟩
    rw [ht, hc]
    rfl

/-- A table and a column that are identifiers make a qualified identifier. -/
theorem parse_append {t c : String} {i j : Identifier} (ht : parse t = .ok i)
    (hc : parse c = .ok j) : parse (t ++ "." ++ c) = .ok ⟨i.parts ++ j.parts⟩ := by
  obtain ⟨rfl, hi⟩ := sql_of_parse ht
  obtain ⟨rfl, hj⟩ := sql_of_parse hc
  have he : sql i ++ "." ++ sql j = sql ⟨i.parts ++ j.parts⟩ := by
    apply String.toList_injective
    simp [sql, joinedChars_append hi.1 hj.1]
  rw [he]
  exact parse_sql (hi.append hj)

theorem IsText.append {t c : String} (ht : IsText t) (hc : IsText c) :
    IsText (t ++ "." ++ c) := by
  obtain ⟨i, ht⟩ := ht
  obtain ⟨j, hc⟩ := hc
  exact ⟨_, parse_append ht hc⟩

/-- The first part of a text and the rest behind it are determined. -/
theorem chars_append_inj {p q : Part} (hp : p.IsWellFormed) (hq : q.IsWellFormed)
    {r r' : List Char} (hr : EndsPart r) (hr' : EndsPart r') (h : p.chars ++ r = q.chars ++ r') :
    p = q ∧ r = r' := by
  have hread := Part.read_chars_append hp hr
  rw [h, Part.read_chars_append hq hr'] at hread
  simpa [eq_comm] using hread

/-- A part and a dot at the front of a written identifier are its first part, and there are more. -/
theorem eq_cons_of_chars_dot {p : Part} (hp : p.IsWellFormed) {qs : List Part}
    (hq : IsWellFormed qs) {r : List Char} (h : p.chars ++ '.' :: r = joinedChars qs) :
    ∃ rest, qs = p :: rest ∧ rest ≠ [] ∧ r = joinedChars rest := by
  obtain ⟨q, rest, rfl⟩ := List.exists_cons_of_ne_nil hq.1
  have hwq := hq.2 q (by simp)
  cases rest with
  | nil =>
      have hends := chars_append_inj hp hwq (.inr ⟨r, rfl⟩) (.inl rfl)
        (h.trans (List.append_nil _).symm)
      exact absurd hends.2 (by simp)
  | cons q' rest =>
      rw [joinedChars_cons q (by simp)] at h
      obtain ⟨rfl, htail⟩ := chars_append_inj hp hwq (.inr ⟨_, rfl⟩) (.inr ⟨_, rfl⟩) h
      exact ⟨q' :: rest, rfl, by simp, (List.cons.inj htail).2⟩

/-- One identifier and a dot start another exactly when its parts start the other's parts and are
not all of them. -/
theorem prefix_dot_iff {ps qs : List Part} (hp : IsWellFormed ps) (hq : IsWellFormed qs) :
    joinedChars ps ++ ['.'] <+: joinedChars qs ↔ ∃ q rest, qs = ps ++ q :: rest := by
  constructor
  · rintro ⟨x, hx⟩
    rw [List.append_assoc, List.singleton_append] at hx
    induction ps generalizing qs with
    | nil => exact absurd rfl hp.1
    | cons p ps ih =>
        have hwp := hp.2 p (by simp)
        cases ps with
        | nil =>
            obtain ⟨rest, rfl, hne, -⟩ := eq_cons_of_chars_dot hwp hq hx
            obtain ⟨q, rest, rfl⟩ := List.exists_cons_of_ne_nil hne
            exact ⟨q, rest, rfl⟩
        | cons p' ps =>
            rw [joinedChars_cons p (by simp), List.append_assoc, List.cons_append] at hx
            obtain ⟨rest, rfl, hne, htail⟩ := eq_cons_of_chars_dot hwp hq hx
            obtain ⟨q, rest', rfl⟩ := ih (hp.tail (by simp)) (hq.tail hne) htail
            exact ⟨q, rest', rfl⟩
  · rintro ⟨q, rest, rfl⟩
    rw [joinedChars_append hp.1 (by simp)]
    exact ⟨joinedChars (q :: rest), by simp⟩

end FilterQuery.Identifier
