import FilterQuery.Proofs.Item.Parts
import FilterQuery.Proofs.Json.Value

/-!
# Well-formed items

Which documents decode is stated without the decoder: an item has a kind, texts or `null` where
texts belong, and, if it is a group, well-formed items. Decoding accepts these documents and refuses
all others.

An item at the outermost level has its kind as a text. An item inside of a group may also have a
number there, the index of its kind. `Item.decode_accepts_iff` states that this is the only
difference between the levels: where all kinds are texts, the same is accepted at every depth.
-/

namespace FilterQuery.Item

/-- A well-formed item. It may stand at the outermost level or inside of a group (`inner`), where a
kind may be given by its index if this is allowed at all (`indexed`). -/
inductive IsItem (indexed : Bool) : Bool → Json → Prop
  | leaf {inner : Bool} {j : Json} {parts : List (String × Json)}
      (presents : Presents (indexed && inner) .leaf j parts)
      (known : ∀ m ∈ parts, m.1 ∈ leafKeys)
      (texts : ∀ m ∈ parts, m.1 ≠ "value" → m.2.IsOptionalText) : IsItem indexed inner j
  | group {inner : Bool} {j : Json} {parts : List (String × Json)}
      (presents : Presents (indexed && inner) .group j parts)
      (known : ∀ m ∈ parts, m.1 ∈ groupKeys)
      (text : ∀ v, ("relation", v) ∈ parts → v.IsOptionalText)
      (array : ∀ v, ("items", v) ∈ parts → ∃ js, v = .array js)
      (items : ∀ js, ("items", .array js) ∈ parts → ∀ e ∈ js, IsItem indexed true e) :
      IsItem indexed inner j

/-- An array of well-formed items. -/
def IsFilter (indexed : Bool) (j : Json) : Prop :=
  ∃ js, j = .array js ∧ ∀ e ∈ js, IsItem indexed false e

/-- What a document has for its kind. -/
def kind? : Json → Option Json
  | .object members => members.lookup "kind"
  | .array elements => elements.head?
  | _ => none

/-- The document stands among the items of a group, at any depth. -/
inductive Inside (e : Json) : Json → Prop
  | item {j : Json} {parts : List (String × Json)} {js : List Json}
      (presents : Presents true .group j parts) (items : ("items", .array js) ∈ parts)
      (mem : e ∈ js) : Inside e j
  | deeper {j g : Json} {parts : List (String × Json)} {js : List Json}
      (presents : Presents true .group j parts) (items : ("items", .array js) ∈ parts)
      (mem : g ∈ js) (below : Inside e g) : Inside e j

/-- The kind is a text. -/
def IsSpelled (j : Json) : Prop := ∃ text, kind? j = some (.string text)

/-- The kind of every item inside of a group is a text. -/
def SpellsKinds (j : Json) : Prop :=
  ∀ js, j = .array js → ∀ g ∈ js, ∀ e, Inside e g → IsSpelled e

section Presents

variable {indexed indexed' : Bool} {k k' : Kind} {j : Json} {parts parts' : List (String × Json)}

/-- Where indices are allowed, everything stands for a kind that does so elsewhere. -/
theorem Kind.Named.allowed {tag : Json} (h : k.Named indexed tag) : k.Named true tag := by
  cases h with
  | name => exact .name
  | index _ fits => exact .index rfl fits

theorem Kind.Named.unique {tag : Json} (h : k.Named indexed tag) (h' : k'.Named indexed' tag) :
    k = k' := by
  have hk := Kind.ofJson_eq_ok_iff.mpr h.allowed
  rw [Kind.ofJson_eq_ok_iff.mpr h'.allowed] at hk
  exact (Except.ok.inj hk).symm

/-- A text that stands for a kind is its name, which is allowed everywhere. -/
theorem Kind.Named.of_text {text : String} (h : k.Named indexed (.string text)) :
    k.Named indexed' (.string text) := by
  cases h
  exact .name

/-- The kind of an item decides which kind of item it is. -/
theorem Presents.exists_kind? (h : Presents indexed k j parts) :
    ∃ tag, kind? j = some tag ∧ k.Named indexed tag ∧
      ∀ {indexed'}, k.Named indexed' tag → Presents indexed' k j parts := by
  cases h with
  | @object members tag distinct kind named =>
      exact ⟨tag, (Json.lookup_eq_some_iff_mem distinct).mpr kind, named,
        fun h => .object distinct kind h⟩
  | @array tag elements named length => exact ⟨tag, rfl, named, fun h => .array h length⟩

theorem Presents.unique (h : Presents indexed k j parts) (h' : Presents indexed' k' j parts') :
    k = k' ∧ parts = parts' := by
  obtain ⟨tag, htag, hnamed, -⟩ := h.exists_kind?
  obtain ⟨tag', htag', hnamed', -⟩ := h'.exists_kind?
  cases htag.symm.trans htag'
  cases hnamed.unique hnamed'
  refine ⟨rfl, ?_⟩
  cases h with
  | object distinct kind named =>
      cases h'
      rfl
  | array named length =>
      cases h'
      rfl

/-- A kind that is a text is allowed everywhere. -/
theorem Presents.of_isSpelled (h : Presents indexed k j parts) (hspelled : IsSpelled j) :
    Presents indexed' k j parts := by
  obtain ⟨tag, htag, hnamed, hpresents⟩ := h.exists_kind?
  obtain ⟨text, htext⟩ := hspelled
  cases htag.symm.trans htext
  exact hpresents hnamed.of_text

/-- Where no indices are allowed, a kind is a text. -/
theorem Presents.isSpelled (h : Presents false k j parts) : IsSpelled j := by
  obtain ⟨tag, htag, hnamed, -⟩ := h.exists_kind?
  cases hnamed with
  | name => exact ⟨k.name, htag⟩
  | index allowed fits => cases allowed

theorem not_inside_of_presents (h : Presents indexed .leaf j parts) {e : Json} :
    ¬Inside e j := by
  intro he
  cases he with
  | item presents items mem => cases (h.unique presents).1
  | deeper presents items mem below => cases (h.unique presents).1

theorem inside_iff_of_presents (h : Presents indexed .group j parts) {e : Json} :
    Inside e j ↔ ∃ js, ("items", .array js) ∈ parts ∧ ∃ g ∈ js, e = g ∨ Inside e g := by
  obtain ⟨tag, -, hnamed, hpresents⟩ := h.exists_kind?
  constructor
  · intro he
    cases he with
    | item presents items mem =>
        obtain ⟨-, rfl⟩ := h.unique presents
        exact ⟨_, items, e, mem, .inl rfl⟩
    | deeper presents items mem below =>
        obtain ⟨-, rfl⟩ := h.unique presents
        exact ⟨_, items, _, mem, .inr below⟩
  · rintro ⟨js, hjs, g, hg, rfl | hbelow⟩
    · exact .item (hpresents hnamed.allowed) hjs hg
    · exact .deeper (hpresents hnamed.allowed) hjs hg hbelow

end Presents

section Decoding

/-- An item is well-formed when its parts are admitted and the items in it are well-formed. -/
theorem isItem_of_presents {inner : Bool} {k : Kind} {j : Json} {parts : List (String × Json)}
    (h : Presents inner k j parts) (hadmits : ∀ m ∈ parts, k.Admits m)
    (hitems : ∀ m ∈ parts, ∀ js, m.2 = .array js → (∀ e ∈ js, ∃ i, ofJson true e = .ok i) →
      ∀ e ∈ js, IsItem true true e) : IsItem true inner j := by
  cases k with
  | leaf =>
      exact .leaf h (fun m hm => (hadmits m hm).1) fun m hm => (hadmits m hm).2
  | group =>
      refine .group h ?_ ?_ ?_ ?_
      · intro m hm
        rcases hadmits m hm with ⟨hkey, -⟩ | ⟨hkey, -⟩
        · simp [groupKeys, hkey]
        · simp [groupKeys, hkey]
      · intro v hv
        rcases hadmits _ hv with ⟨-, htext⟩ | ⟨hkey, -⟩
        · exact htext
        · exact absurd hkey (by simp)
      · intro v hv
        rcases hadmits _ hv with ⟨hkey, -⟩ | ⟨-, hdecodes⟩
        · exact absurd hkey (by simp)
        · obtain ⟨js, hjs, -⟩ := exists_itemsOfJson_iff.mp hdecodes
          exact ⟨js, hjs⟩
      · intro js hjs
        rcases hadmits _ hjs with ⟨hkey, -⟩ | ⟨-, hdecodes⟩
        · exact absurd hkey (by simp)
        · obtain ⟨js', heq, hall⟩ := exists_itemsOfJson_iff.mp hdecodes
          cases heq
          exact hitems _ hjs js rfl hall

/-- What decodes as an item is well-formed. -/
theorem isItem_of_ofJson (j : Json) :
    ∀ inner, (∃ i, ofJson inner j = .ok i) → IsItem true inner j := by
  -- the hypothesis is needed for the elements of a member, two levels down, so it is carried along
  -- for the elements of every array
  suffices h : (∀ inner, (∃ i, ofJson inner j = .ok i) → IsItem true inner j) ∧
      ∀ js, j = .array js → (∀ e ∈ js, ∃ i, ofJson true e = .ok i) → ∀ e ∈ js, IsItem true true e
    from h.1
  induction j using Json.memberInduction with
  | array js ih =>
      constructor
      · rintro inner ⟨i, hi⟩
        obtain ⟨k, parts, hpresents, hadmits, -⟩ := ofJson_eq_ok_iff.mp hi
        refine isItem_of_presents hpresents hadmits ?_
        intro m hm
        cases hpresents with
        | array named length =>
            exact (ih m.2 (List.mem_cons_of_mem _ (List.of_mem_zip hm).2)).2
      · rintro _ ⟨⟩ hall e he
        exact (ih e he).1 true (hall e he)
  | object ms ih =>
      constructor
      · rintro inner ⟨i, hi⟩
        obtain ⟨k, parts, hpresents, hadmits, -⟩ := ofJson_eq_ok_iff.mp hi
        refine isItem_of_presents hpresents hadmits ?_
        intro m hm
        cases hpresents with
        | object distinct kind named => exact (ih m (List.mem_filter.mp hm).1).2
      · rintro _ ⟨⟩
  | null | boolean b | number n | string s =>
      constructor
      · rintro inner ⟨i, hi⟩
        obtain ⟨k, parts, hpresents, -⟩ := ofJson_eq_ok_iff.mp hi
        cases hpresents
      · rintro _ ⟨⟩

/-- A well-formed item decodes. -/
theorem exists_ofJson_of_isItem {inner : Bool} {j : Json} (h : IsItem true inner j) :
    ∃ i, ofJson inner j = .ok i := by
  induction h with
  | leaf presents known texts =>
      exact ⟨_, ofJson_eq_ok_iff.mpr
        ⟨_, _, presents, fun m hm => ⟨known m hm, texts m hm⟩, rfl⟩⟩
  | group presents known text array items ih =>
      refine ⟨_, ofJson_eq_ok_iff.mpr ⟨_, _, presents, ?_, rfl⟩⟩
      rintro ⟨key, v⟩ hm
      have hkey : key = "relation" ∨ key = "items" := by
        simpa [groupKeys] using known _ hm
      rcases hkey with rfl | rfl
      · exact .inl ⟨rfl, text v hm⟩
      · obtain ⟨js, rfl⟩ := array v hm
        exact .inr ⟨rfl, exists_itemsOfJson_iff.mpr ⟨js, rfl, ih js hm⟩⟩

/-- A filter decodes when it is an array of well-formed items. -/
theorem exists_decode_iff {v : Json} : (∃ items, decode v = .ok items) ↔ IsFilter true v := by
  simp only [decode, Outcome.mapError_eq_ok_iff]
  rw [exists_itemsOfJson_iff]
  constructor
  · rintro ⟨js, rfl, hall⟩
    exact ⟨js, rfl, fun e he => isItem_of_ofJson e false (hall e he)⟩
  · rintro ⟨js, rfl, hall⟩
    exact ⟨js, rfl, fun e he => exists_ofJson_of_isItem (hall e he)⟩

end Decoding

section Spelling

variable {inner : Bool} {j : Json}

/-- Without indices the kind of every item is a text. -/
theorem IsItem.isSpelled (h : IsItem false inner j) : IsSpelled j := by
  cases h with
  | leaf presents known texts => exact presents.isSpelled
  | group presents known text array items => exact presents.isSpelled

theorem IsItem.isSpelled_of_inside (h : IsItem false inner j) {e : Json} (he : Inside e j) :
    IsSpelled e := by
  induction h with
  | leaf presents known texts => exact absurd he (not_inside_of_presents presents)
  | group presents known text array items ih =>
      obtain ⟨js, hjs, g, hg, rfl | hbelow⟩ := (inside_iff_of_presents presents).mp he
      · exact (items js hjs e hg).isSpelled
      · exact ih js hjs g hg hbelow

/-- Allowing indices refuses nothing. -/
theorem IsItem.allowed (h : IsItem false inner j) : IsItem true inner j := by
  induction h with
  | leaf presents known texts =>
      exact .leaf (presents.of_isSpelled presents.isSpelled) known texts
  | group presents known text array items ih =>
      exact .group (presents.of_isSpelled presents.isSpelled) known text array ih

/-- An item is well-formed without indices when none of its kinds is an index. -/
theorem IsItem.of_isSpelled (h : IsItem true inner j) (hspelled : inner = true → IsSpelled j)
    (hinside : ∀ e, Inside e j → IsSpelled e) : IsItem false inner j := by
  have hpresents {inner : Bool} {k : Kind} {j : Json} {parts : List (String × Json)}
      (h : Presents (true && inner) k j parts) (hspelled : inner = true → IsSpelled j) :
      Presents (false && inner) k j parts := by
    cases inner with
    | false => exact h
    | true => exact h.of_isSpelled (hspelled rfl)
  induction h with
  | leaf presents known texts => exact .leaf (hpresents presents hspelled) known texts
  | group presents known text array items ih =>
      refine .group (hpresents presents hspelled) known text array fun js hjs g hg => ?_
      refine ih js hjs g hg (fun _ => hinside g ?_) fun e he => hinside e ?_
      · exact (inside_iff_of_presents presents).mpr ⟨js, hjs, g, hg, .inl rfl⟩
      · exact (inside_iff_of_presents presents).mpr ⟨js, hjs, g, hg, .inr he⟩

/-- Indices make no difference where every kind is a text. -/
theorem isFilter_false_iff {v : Json} : IsFilter false v ↔ IsFilter true v ∧ SpellsKinds v := by
  constructor
  · rintro ⟨js, rfl, hitems⟩
    refine ⟨⟨js, rfl, fun e he => (hitems e he).allowed⟩, ?_⟩
    rintro _ ⟨⟩ g hg e he
    exact (hitems g hg).isSpelled_of_inside he
  · rintro ⟨⟨js, rfl, hitems⟩, hspells⟩
    refine ⟨js, rfl, fun g hg => (hitems g hg).of_isSpelled ?_ (hspells js rfl g hg)⟩
    rintro ⟨⟩

end Spelling

/-- A filter decodes exactly if it is an array of well-formed items, where inside of a group the
index of a kind stands for the kind; everything else is refused as a document. Without such an index
a filter is well-formed at every depth alike. -/
theorem decode_accepts_iff (v : Json) :
    ((∃ items, decode v = .ok items) ↔ IsFilter true v) ∧
      ((∃ problem, decode v = .error (.decoding problem)) ↔ ¬IsFilter true v) ∧
      (IsFilter false v ↔ IsFilter true v ∧ SpellsKinds v) := by
  refine ⟨exists_decode_iff, ?_, isFilter_false_iff⟩
  rw [← exists_decode_iff]
  simp only [decode, Outcome.mapError_eq_ok_iff, Outcome.mapError_eq_error_iff]
  cases itemsOfJson false v with
  | error problem => simp
  | ok items => simp

/-- A leaf whose kind is the index of leaves. -/
def indexedLeaf : Json :=
  .object [("field", .string "title"), ("kind", .number (.integer 0 (by decide))),
    ("value", .number (.integer 1 (by decide)))]

/-- A group with an index for a kind in it. -/
def indexedGroup : Json := .object [("items", .array [indexedLeaf]), ("kind", .string "group")]

/-- The index of a kind is accepted inside of a group, although it is no name of a kind. -/
theorem decode_indexedGroup :
    decode (.array [indexedGroup]) =
        .ok [.group none [.leaf (some "title") none
          (some (.number (.integer 1 (by decide)))) none]] ∧
      ¬IsFilter false (.array [indexedGroup]) := by
  refine ⟨rfl, ?_⟩
  intro h
  have hpresents : Presents true .group indexedGroup [("items", .array [indexedLeaf])] :=
    .object (by decide) (List.mem_cons_of_mem _ List.mem_cons_self) .name
  have hinside : Inside indexedLeaf indexedGroup :=
    .item hpresents List.mem_cons_self List.mem_cons_self
  obtain ⟨text, htext⟩ := (isFilter_false_iff.mp h).2 _ rfl _ List.mem_cons_self _ hinside
  cases htext

end FilterQuery.Item
