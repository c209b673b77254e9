import FilterQuery.Proofs.Item.WellFormed
import FilterQuery.Proofs.Json.KeyOrder

/-!
# Decoding does not depend on the order of keys

The text of a filter is decoded member by member in the order in which it was written. The JSON
value of the same document has its members sorted, so that the kind of an item can be behind parts
that it decides about. Where no object repeats a key both decode alike: an item presents the same
parts, in another order and with normalised values, and neither makes a difference.

`Item.parse_eq_ok_iff` states this for a text and the value of its document, and for two texts whose
documents differ in the order of members only.
-/

namespace FilterQuery

namespace Json

theorem text?_normalize (j : Json) : j.normalize.text? = j.text? := by
  cases j <;> rfl

theorem isOptionalText_normalize_iff {j : Json} :
    j.normalize.IsOptionalText ↔ j.IsOptionalText := by
  cases j <;> simp [normalize, IsOptionalText]

theorem isNull_normalize (j : Json) : j.normalize.isNull = j.isNull := by
  cases j <;> rfl

end Json

namespace Item

open Json (normalizeMember)

theorem valueOfJson_normalize_eq (j : Json) : valueOfJson j.normalize = valueOfJson j := by
  rw [valueOfJson, valueOfJson, Json.isNull_normalize,
    Json.normalize_of_isValue (Json.isValue_normalize j)]

theorem Kind.named_normalize_iff {indexed : Bool} {k : Kind} {j : Json} :
    k.Named indexed j.normalize ↔ k.Named indexed j := by
  cases j with
  | null | boolean b | number n | string s => exact Iff.rfl
  | array js | object ms =>
      constructor
      · intro h
        cases h
      · intro h
        cases h

section Presents

variable {indexed : Bool} {k : Kind} {j : Json} {parts : List (String × Json)}

theorem map_fst_zip_sublist (keys : List String) (elements : List Json) :
    ((keys.zip elements).map (·.1)).Sublist keys := by
  induction keys generalizing elements with
  | nil => exact List.Sublist.refl _
  | cons key rest ih =>
      cases elements with
      | nil => exact List.nil_sublist _
      | cons e elements => exact (ih elements).cons_cons key

/-- No key stands twice among the parts of an item. -/
theorem Presents.nodup (h : Presents indexed k j parts) : (parts.map (·.1)).Nodup := by
  cases h with
  | object distinct kind named => exact distinct.sublist (List.filter_sublist.map _)
  | @array tag elements named length =>
      have hkeys : k.keys.Nodup := by
        cases k <;> decide
      exact hkeys.sublist (map_fst_zip_sublist k.keys elements)

/-- The parts of an item and the parts of its value are the same but for their order. -/
theorem Presents.exists_normalize (h : Presents indexed k j parts) :
    ∃ parts', Presents indexed k j.normalize parts' ∧
      parts'.Perm (parts.map normalizeMember) := by
  cases h with
  | @object members tag distinct kind named =>
      have hperm := Json.perm_normalizeMembers_nil distinct
      have hkind : ("kind", tag.normalize) ∈ Json.normalizeMembers [] members :=
        hperm.mem_iff.mpr (List.mem_map_of_mem (f := normalizeMember) kind)
      have hsorted := Json.Sorted.normalizeMembers List.Pairwise.nil members
      refine ⟨_, .object hsorted.nodup hkind (Kind.named_normalize_iff.mpr named), ?_⟩
      have hparts : partsOf (members.map normalizeMember) =
          (partsOf members).map normalizeMember := List.filter_map
      rw [← hparts]
      exact hperm.filter _
  | @array tag elements named length =>
      rw [Json.normalize, Json.normalizeElements_eq_map, List.map_cons]
      refine ⟨_, .array (Kind.named_normalize_iff.mpr named) (by simpa using length), ?_⟩
      rw [List.zip_map_right]
      exact List.Perm.refl _

/-- What is an item as a value is one as a document. -/
theorem exists_presents_of_normalize (hkeys : j.HasDistinctKeys)
    (h : Presents indexed k j.normalize parts) : ∃ parts', Presents indexed k j parts' := by
  cases hkeys with
  | null | boolean b | number n | string s => cases h
  | @object members distinct below =>
      cases h with
      | @object _ tag distinct' kind named =>
          rcases Json.mem_normalizeMembers kind with hnil | ⟨v, hv, htag⟩
          · cases hnil
          · cases htag
            exact ⟨_, .object distinct hv (Kind.named_normalize_iff.mp named)⟩
  | @array elements below =>
      rw [Json.normalize, Json.normalizeElements_eq_map] at h
      cases elements with
      | nil => cases h
      | cons tag rest =>
          cases h with
          | array named length =>
              exact ⟨_, .array (Kind.named_normalize_iff.mp named) (by simpa using length)⟩

/-- A value decodes to the same items as its document. -/
def DecodesAlike (j : Json) : Prop :=
  ∀ inner items, itemsOfJson inner j.normalize = .ok items ↔ itemsOfJson inner j = .ok items

theorem DecodesAlike.itemsOf_eq (h : DecodesAlike j) : itemsOf j.normalize = itemsOf j := by
  cases hj : itemsOfJson true j with
  | ok items => rw [itemsOf, itemsOf, (h true items).mpr hj, hj]
  | error e =>
      cases hn : itemsOfJson true j.normalize with
      | ok items =>
          rw [(h true items).mp hn] at hj
          cases hj
      | error e' => rw [itemsOf, itemsOf, hn, hj]

theorem Kind.admits_normalize_iff {m : String × Json} (h : DecodesAlike m.2) :
    k.Admits (normalizeMember m) ↔ k.Admits m := by
  obtain ⟨key, value⟩ := m
  cases k with
  | leaf => simp only [Admits, normalizeMember, Json.isOptionalText_normalize_iff]
  | group => simp only [Admits, normalizeMember, Json.isOptionalText_normalize_iff, h true]

/-- An item is built from its parts alike, whatever their order. -/
theorem Kind.build_normalize_eq {parts' : List (String × Json)}
    (hdistinct : (parts.map (·.1)).Nodup) (hperm : parts'.Perm (parts.map normalizeMember))
    (h : ∀ m ∈ parts, DecodesAlike m.2) : k.build parts' = k.build parts := by
  have hlookup := Json.lookup_eq_map_normalize hdistinct hperm
  have htext (key : String) :
      (parts'.lookup key).bind Json.text? = (parts.lookup key).bind Json.text? := by
    rw [hlookup]
    cases parts.lookup key with
    | none => rfl
    | some v => exact Json.text?_normalize v
  cases k with
  | leaf =>
      have hvalue : (parts'.lookup "value").bind valueOfJson =
          (parts.lookup "value").bind valueOfJson := by
        rw [hlookup]
        cases parts.lookup "value" with
        | none => rfl
        | some v => exact valueOfJson_normalize_eq v
      rw [build, build, htext, htext, htext, hvalue]
  | group =>
      have hitems : (parts'.lookup "items").map itemsOf = (parts.lookup "items").map itemsOf := by
        rw [hlookup]
        cases hpart : parts.lookup "items" with
        | none => rfl
        | some v =>
            exact congrArg some (h _ (Json.mem_of_lookup_eq_some hpart)).itemsOf_eq
      rw [build, build, htext, hitems]

/-- An item decodes as its value does if the items in it do. -/
theorem ofJson_normalize_iff_of_parts {inner : Bool} {i : Item} (hkeys : j.HasDistinctKeys)
    (h : ∀ k parts, Presents inner k j parts → ∀ m ∈ parts, DecodesAlike m.2) :
    ofJson inner j.normalize = .ok i ↔ ofJson inner j = .ok i := by
  -- both sides present parts, and those of the value are those of the document
  have halike {k : Kind} {parts parts' : List (String × Json)} (hparts : Presents inner k j parts)
      (hperm : parts'.Perm (parts.map normalizeMember)) :
      ((∀ m ∈ parts', k.Admits m) ∧ k.build parts' = i) ↔
        (∀ m ∈ parts, k.Admits m) ∧ k.build parts = i := by
    have hbelow := h k parts hparts
    rw [Kind.build_normalize_eq hparts.nodup hperm hbelow]
    refine and_congr_left' ?_
    calc
      (∀ m ∈ parts', k.Admits m)
      _ ↔ ∀ m ∈ parts.map normalizeMember, k.Admits m := by simp only [hperm.mem_iff]
      _ ↔ ∀ m ∈ parts, k.Admits (normalizeMember m) := List.forall_mem_map
      _ ↔ ∀ m ∈ parts, k.Admits m :=
          forall₂_congr fun m hm => Kind.admits_normalize_iff (hbelow m hm)
  rw [ofJson_eq_ok_iff, ofJson_eq_ok_iff]
  constructor
  · rintro ⟨k, parts', hpresents', hbuilds⟩
    obtain ⟨parts, hpresents⟩ := exists_presents_of_normalize hkeys hpresents'
    obtain ⟨parts'', hpresents'', hperm⟩ := hpresents.exists_normalize
    obtain ⟨-, rfl⟩ := hpresents'.unique hpresents''
    exact ⟨k, parts, hpresents, (halike hpresents hperm).mp hbuilds⟩
  · rintro ⟨k, parts, hpresents, hbuilds⟩
    obtain ⟨parts', hpresents', hperm⟩ := hpresents.exists_normalize
    exact ⟨k, parts', hpresents', (halike hpresents hperm).mpr hbuilds⟩

end Presents

/-- A list decodes as its values do if its elements do. -/
theorem listOfJson_normalize_iff {inner : Bool} {js : List Json} {items : List Item}
    (h : ∀ j ∈ js, ∀ i, ofJson inner j.normalize = .ok i ↔ ofJson inner j = .ok i) :
    listOfJson inner (Json.normalizeElements js) = .ok items ↔ listOfJson inner js = .ok items := by
  induction js generalizing items with
  | nil => exact Iff.rfl
  | cons j rest ih =>
      have hrest (items : List Item) :
          listOfJson inner (Json.normalizeElements rest) = .ok items ↔
            listOfJson inner rest = .ok items :=
        ih fun e he => h e (List.mem_cons_of_mem _ he)
      rw [Json.normalizeElements, listOfJson, listOfJson]
      simp only [Outcome.bind_eq_ok_iff, h j List.mem_cons_self, hrest]

/-- Documents without repeated keys decode as their values do. -/
theorem decodesAlike {j : Json} (hkeys : j.HasDistinctKeys) : DecodesAlike j := by
  -- the items of a group are two levels below it, so the elements of an array are carried along
  suffices h : (∀ inner i, ofJson inner j.normalize = .ok i ↔ ofJson inner j = .ok i) ∧
      DecodesAlike j from h.2
  induction hkeys with
  | null | boolean b | number n | string s => exact ⟨fun _ _ => Iff.rfl, fun _ _ => Iff.rfl⟩
  | @array js elements ih =>
      constructor
      · intro inner i
        refine ofJson_normalize_iff_of_parts (.array elements) ?_
        rintro k parts hpresents m hm
        cases hpresents with
        | array named length => exact (ih _ (List.mem_cons_of_mem _ (List.of_mem_zip hm).2)).2
      · intro inner items
        exact listOfJson_normalize_iff fun e he => (ih e he).1 inner
  | @object ms distinct members ih =>
      constructor
      · intro inner i
        refine ofJson_normalize_iff_of_parts (.object distinct members) ?_
        rintro k parts hpresents m hm
        cases hpresents with
        | object _ kind named => exact (ih m (List.mem_filter.mp hm).1).2
      · exact fun _ _ => Iff.rfl

/-- Where no object repeats a key, the text of a filter and the value of its document decode to the
same items, or both do not decode; and it makes no difference in which order the members of its
objects are written, the kinds of items included. -/
theorem parse_eq_ok_iff {text : String} {document : Json}
    (hread : Json.read? text = some document) (hkeys : document.HasDistinctKeys) :
    (∀ items, parse text = .ok items ↔ decode document.normalize = .ok items) ∧
      ∀ text' document', Json.read? text' = some document' → document.Reordered document' →
        ∀ items, parse text' = .ok items ↔ parse text = .ok items := by
  have hparse {text : String} {document : Json} (hread : Json.read? text = some document)
      (hkeys : document.HasDistinctKeys) (items : List Item) :
      parse text = .ok items ↔ decode document.normalize = .ok items := by
    simp only [parse, hread, decode, Outcome.mapError_eq_ok_iff]
    exact (decodesAlike hkeys false items).symm
  refine ⟨hparse hread hkeys, ?_⟩
  intro text' document' hread' hreordered items
  obtain ⟨hkeys', heq⟩ := hreordered.normalize_eq hkeys
  rw [hparse hread' hkeys', hparse hread hkeys, heq]

/-- A test in a group, in a text with the kind behind everything else in the group. -/
def kindBehind : String :=
  "[\x7b\"items\":[\x7b\"value\":[7,null],\"kind\":\"leaf\",\"field\":\"id\"\x7d]," ++
    "\"kind\":\"group\"\x7d]"

/-- The same with every kind in front. -/
def kindInFront : String :=
  "[\x7b\"kind\":\"group\",\"items\":[\x7b\"kind\":\"leaf\",\"field\":\"id\"," ++
    "\"value\":[7,null]\x7d]\x7d]"

/-- The value of the test. -/
def sevenOrNull : Json := .array [.number (.integer 7 (by decide)), .null]

/-- The test with its kind between its parts. -/
def kindBetween : List (String × Json) :=
  [("value", sevenOrNull), ("kind", .string "leaf"), ("field", .string "id")]

/-- What the first text says. -/
def kindBehindDocument : Json :=
  .array [.object [("items", .array [.object kindBetween]), ("kind", .string "group")]]

/-- What the second text says. -/
def kindInFrontDocument : Json :=
  .array [.object [("kind", .string "group"), ("items", .array [.object
    [("kind", .string "leaf"), ("field", .string "id"), ("value", sevenOrNull)]])]]

/-- Both texts are read as the same group. -/
theorem parse_kindBehind :
    Json.read? kindBehind = some kindBehindDocument ∧ kindBehindDocument.HasDistinctKeys ∧
      Json.read? kindInFront = some kindInFrontDocument ∧
      kindBehindDocument.Reordered kindInFrontDocument ∧
      decode kindBehindDocument.normalize =
        .ok [.group none [.leaf (some "id") none (some sevenOrNull) none]] ∧
      parse kindBehind = decode kindBehindDocument.normalize ∧
      parse kindInFront = parse kindBehind := by
  have hread : Json.read? kindBehind = some kindBehindDocument := rfl
  have hread' : Json.read? kindInFront = some kindInFrontDocument := rfl
  have htest : Json.HasDistinctKeys (.object kindBetween) := by
    refine .object (by decide) ?_
    simp only [kindBetween, List.forall_mem_cons]
    refine ⟨.array ?_, .string _, .string _, by simp⟩
    simp only [List.forall_mem_cons]
    exact ⟨.number _, .null, by simp⟩
  have hkeys : kindBehindDocument.HasDistinctKeys := by
    refine .array (List.forall_mem_singleton.mpr (.object (by decide) ?_))
    simp only [List.forall_mem_cons]
    exact ⟨.array (List.forall_mem_singleton.mpr htest), .string _, by simp⟩
  have hreordered : kindBehindDocument.Reordered kindInFrontDocument := by
    -- first inside of the inner object, then in the outer one
    have hinner : Json.Reordered (.object kindBetween) (.object
        [("kind", .string "leaf"), ("field", .string "id"), ("value", sevenOrNull)]) :=
      .object ((List.Perm.swap ..).trans ((List.Perm.swap ..).cons _))
    have hitems := @Json.Reordered.element [] [] _ _ hinner
    have hgroup := @Json.Reordered.member [] [("kind", .string "group")] "items" _ _ hitems
    exact .trans (@Json.Reordered.element [] [] _ _ hgroup)
      (@Json.Reordered.element [] [] _ _ (.object (List.Perm.swap ..)))
  obtain ⟨hvalue, htexts⟩ := parse_eq_ok_iff hread hkeys
  have hdecode := (hvalue _).mpr rfl
  have hdecode' := (htexts _ _ hread' hreordered _).mpr hdecode
  exact ⟨hread, hkeys, hread', hreordered, rfl, hdecode, hdecode'.trans hdecode.symm⟩

end Item

end FilterQuery
