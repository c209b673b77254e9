import FilterQuery.Proofs.Sql.Token

/-!
# Tokens of templates

A template is cut into tokens after it has been printed, behind other values and before other text.
Templates in a row give their tokens in a row, as long as the first does not run into the second: a
name or a placeholder has to be followed by a space, a comma or a closing parenthesis.
-/

namespace FilterQuery.Sql

open Identifier Template

/-- Any text may follow. -/
def Anything (_ : List Char) : Prop := True

/-- Printed behind any values, and followed by any text of the given kind, the template gives the
tokens. -/
def Lexes (ok : List Char → Prop) (t : Template) (ts : List Token) : Prop :=
  ∀ before after rest, ok rest →
    lex (before ++ t.values ++ after) ((t.print (before.length + 1)).toList ++ rest) =
      (lex (before ++ t.values ++ after) rest).map (ts ++ ·)

/-- Whatever number it is printed from, the template keeps the token before it from going on. -/
def Separates (t : Template) : Prop := ∀ n rest, EndsToken ((t.print n).toList ++ rest)

namespace Lexes

variable {ok ok' : List Char → Prop} {s t : Template} {ss ts : List Token}

theorem append (hs : Lexes ok s ss) (ht : Lexes ok' t ts)
    (h : ∀ n rest, ok' rest → ok ((t.print n).toList ++ rest)) : Lexes ok' (s ++ t) (ss ++ ts) := by
  intro before after rest hrest
  have hfirst := hs before (t.values ++ after)
    ((t.print (before.length + 1 + s.values.length)).toList ++ rest) (h _ _ hrest)
  have hsecond := ht (before ++ s.values) after rest hrest
  have hvalues : before ++ (s ++ t).values ++ after =
      before ++ s.values ++ (t.values ++ after) := by simp
  have hvalues' : before ++ s.values ++ t.values ++ after =
      before ++ s.values ++ (t.values ++ after) := by simp
  have hnumber : (before ++ s.values).length + 1 = before.length + 1 + s.values.length := by
    rw [List.length_append]
    omega
  have htext : ((s ++ t).print (before.length + 1)).toList ++ rest =
      (s.print (before.length + 1)).toList ++
        ((t.print (before.length + 1 + s.values.length)).toList ++ rest) := by
    rw [print_append, String.toList_append, List.append_assoc]
  rw [hvalues', hnumber] at hsecond
  rw [hvalues, htext, hfirst, hsecond, Option.map_map]
  congr 1
  funext us
  exact (List.append_assoc _ _ _).symm

/-- What ends by itself may be followed by any template. -/
theorem append_of_anything (hs : Lexes Anything s ss) (ht : Lexes ok t ts) :
    Lexes ok (s ++ t) (ss ++ ts) :=
  hs.append ht fun _ _ _ => trivial

theorem append_of_separates (hs : Lexes EndsToken s ss) (ht : Lexes ok t ts) (h : Separates t) :
    Lexes ok (s ++ t) (ss ++ ts) :=
  hs.append ht fun n rest _ => h n rest

theorem of_anything (h : Lexes Anything t ts) : Lexes ok t ts :=
  fun before after rest _ => h before after rest trivial

theorem nil : Lexes ok [] [] := by
  intro before after rest _
  simp

/-- A text without values only depends on its characters. -/
theorem of_text {x : String}
    (h : ∀ params rest, ok rest → lex params (x.toList ++ rest) = (lex params rest).map (ts ++ ·)) :
    Lexes ok (text x) ts := by
  intro before after rest hrest
  have hprint : (text x).print (before.length + 1) = x := by simp [text, print]
  rw [hprint, h _ _ hrest]

theorem text_append {x y : String} (h : Lexes ok (text x ++ text y) ts) :
    Lexes ok (text (x ++ y)) ts := by
  intro before after rest hrest
  have hprint : (text (x ++ y)).print (before.length + 1) =
      (text x ++ text y).print (before.length + 1) := by simp [text, print]
  have hvalues : (text (x ++ y)).values = (text x ++ text y).values := rfl
  rw [hprint, hvalues]
  exact h before after rest hrest

theorem value (v : Json) : Lexes EndsToken (Template.value v) [.value v] := by
  intro before after rest hrest
  have hv : (before ++ (Template.value v).values ++ after)[before.length]? = some v := by simp
  have hprint : (Template.value v).print (before.length + 1) =
      placeholder (before.length + 1) := by simp [Template.value, print]
  rw [hprint, lex_placeholder hv hrest]
  rfl

theorem name {x : String} (h : IsText x) : Lexes EndsToken (text x) [.name x] :=
  of_text fun _ _ hrest => lex_name h hrest

theorem space : Lexes Anything (text " ") [] :=
  of_text fun params rest _ => by
    change lex params (' ' :: rest) = _
    simp

theorem opening : Lexes Anything (text "(") [.opening] :=
  of_text fun _ _ _ => lex_opening

theorem closing : Lexes Anything (text ")") [.closing] :=
  of_text fun _ _ _ => lex_closing

theorem comma : Lexes Anything (text ", ") [.comma] :=
  of_text fun params rest _ => by
    change lex params (',' :: ' ' :: rest) = _
    rw [lex_comma, lex_space]
    rfl

end Lexes

theorem separates_text {c : Char} {cs : List Char} {x : String} (hx : x.toList = c :: cs)
    (hc : c = ' ' ∨ c = ')' ∨ c = ',') : Separates (text x) := by
  intro n rest
  have hprint : ((text x).print n).toList = c :: cs := by simpa [text, print] using hx
  rw [hprint]
  exact .inr ⟨c, cs ++ rest, rfl, hc⟩

theorem Separates.append {s : Template} (h : Separates s) (t : Template) : Separates (s ++ t) := by
  intro n rest
  rw [print_append, String.toList_append, List.append_assoc]
  exact h n _

theorem Separates.text_append {x : String} (h : Separates (text x)) (y : String) :
    Separates (text (x ++ y)) := by
  intro n rest
  have hprint : ((text (x ++ y)).print n).toList = ((text x).print n).toList ++ y.toList := by
    simp [text, print]
  rw [hprint, List.append_assoc]
  exact h n _

/-- Words with a space before each. -/
def words : List String → String
  | [] => ""
  | x :: xs => " " ++ x ++ words xs

theorem separates_words {x : String} {xs : List String} : Separates (text (words (x :: xs))) := by
  have htext : (words (x :: xs)).toList = ' ' :: (x ++ words xs).toList := by simp [words]
  exact separates_text htext (.inl rfl)

theorem lexes_words {xs : List String} (h : ∀ x ∈ xs, IsText x) :
    Lexes EndsToken (text (words xs)) (xs.map .name) := by
  induction xs with
  | nil => exact Lexes.of_text fun _ _ _ => by simp [words]
  | cons x xs ih =>
      have hx : Lexes EndsToken (text (" " ++ x)) [.name x] :=
        Lexes.text_append (Lexes.space.append_of_anything (Lexes.name (h x (by simp))))
      have hxs := ih fun y hy => h y (by simp [hy])
      apply Lexes.text_append
      apply hx.append hxs
      intro n rest hrest
      cases xs with
      | nil => exact hrest
      | cons y ys => exact separates_words n rest

theorem separates_space {x : String} : Separates (text (" " ++ x)) := by
  have htext : (" " ++ x).toList = ' ' :: x.toList := by simp
  exact separates_text htext (.inl rfl)

/-- Words with a space behind them, so that anything may follow. -/
theorem lexes_words_space {xs : List String} (h : ∀ x ∈ xs, IsText x) :
    Lexes Anything (text (words xs ++ " ")) (xs.map .name) := by
  have hspace : Separates (text " ") := separates_text rfl (.inl rfl)
  have happend := (lexes_words h).append_of_separates Lexes.space hspace
  rw [List.append_nil] at happend
  exact Lexes.text_append happend

/-- A name and what stands behind it. -/
theorem Lexes.name_append {ok : List Char → Prop} {x y : String} {ts : List Token} (hx : IsText x)
    (hy : Lexes ok (text y) ts) (h : Separates (text y)) :
    Lexes ok (text (x ++ y)) (.name x :: ts) :=
  Lexes.text_append ((Lexes.name hx).append_of_separates hy h)

/-- Templates with text between them are the first one and the others, each behind the text. -/
theorem join_cons (separator : String) (t : Template) (ts : List Template) :
    join separator (t :: ts) = t ++ ts.flatMap fun u => text separator ++ u := by
  induction ts generalizing t with
  | nil => simp [join]
  | cons u us ih =>
      rw [join, ih u, List.flatMap_cons, List.append_assoc, List.append_assoc]
      simp

theorem endsToken_following {separator : String} (h : Separates (text separator))
    (ts : List Template) (n : Nat) {rest : List Char} (hrest : EndsToken rest) :
    EndsToken ((print n (ts.flatMap fun u => text separator ++ u)).toList ++ rest) := by
  cases ts with
  | nil => exact hrest
  | cons u us =>
      rw [List.flatMap_cons, List.append_assoc]
      exact h.append _ n rest

theorem Lexes.parenthesized {t : Template} {ts : List Token} (h : Lexes EndsToken t ts) :
    Lexes EndsToken t.parenthesized (.opening :: ts ++ [.closing]) := by
  have hopen : Lexes EndsToken (text "(" ++ t) (.opening :: ts) := Lexes.opening.append_of_anything h
  exact hopen.append_of_separates Lexes.closing.of_anything (separates_text rfl (.inr (.inl rfl)))

/-- The tokens of values behind a first one. -/
def commaTokens (vs : List Json) : List Token := vs.flatMap fun v => [.comma, .value v]

theorem separates_comma : Separates (text ", ") := separates_text rfl (.inr (.inr rfl))

theorem lexes_commaTokens (vs : List Json) :
    Lexes EndsToken ((vs.map Template.value).flatMap fun u => text ", " ++ u) (commaTokens vs) := by
  induction vs with
  | nil => exact Lexes.nil
  | cons v vs ih =>
      have hv : Lexes EndsToken (text ", " ++ Template.value v) [.comma, .value v] :=
        Lexes.comma.append_of_anything (Lexes.value v)
      rw [List.map_cons, List.flatMap_cons]
      exact hv.append ih fun n rest hrest => endsToken_following separates_comma _ n hrest

/-- The values of a list, with commas between them. -/
theorem lexes_values (v : Json) (vs : List Json) :
    Lexes EndsToken (join ", " ((v :: vs).map Template.value)) (.value v :: commaTokens vs) := by
  rw [List.map_cons, join_cons]
  exact (Lexes.value v).append (lexes_commaTokens vs) fun n rest hrest =>
    endsToken_following separates_comma _ n hrest

end FilterQuery.Sql
