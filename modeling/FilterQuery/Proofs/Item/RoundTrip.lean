import FilterQuery.Clause.Resolve
import FilterQuery.Proofs.Item.Parts
import FilterQuery.Proofs.Json.Value

/-!
# Decoding what was encoded

In the JSON value of a filter the members of every item are sorted, so its kind can be anywhere
among them. The parts are found by their keys all the same, and an item decodes to itself but for
one distinction: a value that is `null` is written down and not read back.

Resolving does not make this distinction. `Item.decode_encode` states both.
-/

namespace FilterQuery

namespace Item

mutual

/-- The item without the values that are `null`. -/
def forgetNull : Item → Item
  | leaf field operator value relation =>
    leaf field operator (value.filter fun v => !v.isNull) relation
  | group relation items => group relation (forgetNulls items)

/-- The items without the values that are `null`. -/
def forgetNulls : List Item → List Item
  | [] => []
  | item :: rest => item.forgetNull :: forgetNulls rest

end

/-- The values of all leaves are JSON values. -/
inductive HasValues : Item → Prop
  | leaf {field operator : Option String} {value : Option Json} {relation : Option String}
      (isValue : ∀ v ∈ value, v.IsValue) : HasValues (.leaf field operator value relation)
  | group {relation : Option String} {items : List Item} (inside : ∀ i ∈ items, HasValues i) :
      HasValues (.group relation items)

theorem forgetNulls_eq_map (items : List Item) : forgetNulls items = items.map forgetNull := by
  induction items with
  | nil => rfl
  | cons i rest ih => rw [forgetNulls, ih, List.map_cons]

section Written

/-- The kind of an item. -/
def kind : Item → Kind
  | leaf .. => .leaf
  | group .. => .group

/-- The member of an object for a part that may be absent. -/
def member (key : String) (part : Option Json) : List (String × Json) :=
  part.toList.map fun j => (key, j)

/-- The parts of an item that are present. -/
def written : Item → List (String × Json)
  | leaf field operator value relation =>
    member "field" (field.map .string) ++ member "operator" (operator.map .string) ++
      member "value" value ++ member "relation" (relation.map .string)
  | group relation items =>
    member "relation" (relation.map .string) ++ member "items" (some (.array (listToJson items)))

theorem textMember_eq (key : String) (text : Option String) :
    textMember key text = member key (text.map .string) := by
  cases text <;> rfl

theorem toJson_eq (i : Item) : i.toJson = .object (("kind", .string i.kind.name) :: i.written) := by
  cases i with
  | leaf field operator value relation =>
      rw [toJson, textMember_eq, textMember_eq, textMember_eq]
      rfl
  | group relation items =>
      rw [toJson, textMember_eq]
      rfl

theorem keys_member_sublist (key : String) (part : Option Json) :
    ((member key part).map (·.1)).Sublist [key] := by
  cases part with
  | none => exact List.nil_sublist _
  | some j => exact List.Sublist.refl _

theorem lookup_member (key : String) (part : Option Json) (k : String) :
    (member key part).lookup k = if k = key then part else none := by
  cases part with
  | none => simp [member]
  | some j =>
      rw [member, Option.toList_some, List.map_singleton, List.lookup_cons]
      by_cases h : k = key
      · simp [h]
      · simp [h, beq_eq_false_iff_ne.mpr h]

theorem eq_of_mem_member {key : String} {part : Option Json} {m : String × Json}
    (h : m ∈ member key part) : m.1 = key ∧ part = some m.2 := by
  cases part with
  | none => cases h
  | some j =>
      cases List.mem_singleton.mp h
      exact ⟨rfl, rfl⟩

theorem isOptionalText_of_mem_member {key : String} {text : Option String} {m : String × Json}
    (h : m ∈ member key (text.map .string)) : m.2.normalize.IsOptionalText := by
  obtain ⟨t, -, ht⟩ := Option.map_eq_some_iff.mp (eq_of_mem_member h).2
  rw [← ht]
  exact .inr ⟨t, rfl⟩

theorem lookup_written_leaf (field operator : Option String) (value : Option Json)
    (relation : Option String) :
    (written (.leaf field operator value relation)).lookup "field" = field.map .string ∧
      (written (.leaf field operator value relation)).lookup "operator" = operator.map .string ∧
      (written (.leaf field operator value relation)).lookup "value" = value ∧
      (written (.leaf field operator value relation)).lookup "relation" =
        relation.map .string := by
  simp [written, List.lookup_append, lookup_member]

theorem lookup_written_group (relation : Option String) (items : List Item) :
    (written (.group relation items)).lookup "relation" = relation.map .string ∧
      (written (.group relation items)).lookup "items" = some (.array (listToJson items)) := by
  simp [written, List.lookup_append, lookup_member]

/-- The parts stand in the order of their keys. -/
theorem keys_written_sublist (i : Item) : (i.written.map (·.1)).Sublist i.kind.keys := by
  cases i with
  | leaf field operator value relation =>
      simp only [written, List.map_append]
      exact (((keys_member_sublist _ _).append (keys_member_sublist _ _)).append
        (keys_member_sublist _ _)).append (keys_member_sublist _ _)
  | group relation items =>
      simp only [written, List.map_append]
      exact (keys_member_sublist _ _).append (keys_member_sublist _ _)

/-- An item has every key once. -/
theorem nodup_keys_toJson (i : Item) :
    ((("kind", Json.string i.kind.name) :: i.written).map (·.1)).Nodup := by
  have hkeys : ("kind" :: i.kind.keys).Nodup := by
    cases i.kind <;> decide
  exact hkeys.sublist (i.keys_written_sublist.cons_cons "kind")

/-- The JSON value of an item presents the parts of the item, wherever its kind is. -/
theorem exists_presents_toJson (inner : Bool) (i : Item) :
    ∃ parts, Presents inner i.kind i.toJson.normalize parts ∧
      (∀ m ∈ parts, ∃ v, (m.1, v) ∈ i.written ∧ m.2 = v.normalize) ∧
      ∀ k, k ≠ "kind" → parts.lookup k = (i.written.lookup k).map Json.normalize := by
  have hlookup := Json.lookup_normalizeMembers_of_nodup i.nodup_keys_toJson
  rw [toJson_eq, Json.normalize]
  refine ⟨_, .object (Json.Sorted.normalizeMembers List.Pairwise.nil _).nodup
    (Json.mem_of_lookup_eq_some (hlookup "kind")) .name, ?_, ?_⟩
  · intro m hm
    obtain ⟨hmem, hkey⟩ := List.mem_filter.mp hm
    obtain ⟨key, value⟩ := m
    rcases Json.mem_normalizeMembers hmem with hnil | ⟨v, hv, heq⟩
    · cases hnil
    · rcases List.mem_cons.mp hv with hkind | hv
      · cases hkind
        cases hkey
      · exact ⟨v, hv, heq⟩
  · intro k hk
    rw [lookup_partsOf hk, hlookup, List.lookup_cons, beq_eq_false_iff_ne.mpr hk]

end Written

section Decoding

variable {inner : Bool}

/-- The parts of an encoded item are admitted if the items in it decode. -/
theorem admits_of_mem_written {i : Item} {m : String × Json} (h : m ∈ i.written)
    (hitems : ∀ relation items, i = .group relation items →
      ∃ is, itemsOfJson true (Json.array (listToJson items)).normalize = .ok is) :
    i.kind.Admits (m.1, m.2.normalize) := by
  cases i with
  | leaf field operator value relation =>
      have hkey : m.1 ∈ leafKeys :=
        (keys_written_sublist _).subset (List.mem_map_of_mem h)
      refine ⟨hkey, fun hne => ?_⟩
      simp only [written, List.mem_append] at h
      rcases h with ((h | h) | h) | h
      · exact isOptionalText_of_mem_member h
      · exact isOptionalText_of_mem_member h
      · exact absurd (eq_of_mem_member h).1 hne
      · exact isOptionalText_of_mem_member h
  | group relation items =>
      rcases List.mem_append.mp h with h | h
      · exact .inl ⟨(eq_of_mem_member h).1, isOptionalText_of_mem_member h⟩
      · obtain ⟨hkey, hpart⟩ := eq_of_mem_member h
        refine .inr ⟨hkey, ?_⟩
        rw [← Option.some.inj hpart]
        exact hitems relation items rfl

/-- A text is decoded to itself, and one that is absent to none. -/
theorem text?_normalize (text : Option String) :
    ((text.map Json.string).map Json.normalize).bind Json.text? = text := by
  cases text <;> rfl

/-- A value is decoded to itself unless it is `null`. -/
theorem valueOfJson_normalize {value : Option Json} (h : ∀ v ∈ value, v.IsValue) :
    (value.map Json.normalize).bind valueOfJson = value.filter fun v => !v.isNull := by
  cases value with
  | none => rfl
  | some v =>
      have hv := Json.normalize_of_isValue (h v rfl)
      rw [Option.map_some, Option.bind_some, hv, valueOfJson, hv, Option.filter_some]
      cases v.isNull <;> rfl

theorem listOfJson_normalizeElements {items : List Item}
    (h : ∀ i ∈ items, ofJson inner i.toJson.normalize = .ok i.forgetNull) :
    listOfJson inner (Json.normalizeElements (listToJson items)) =
      .ok (items.map forgetNull) := by
  induction items with
  | nil => rfl
  | cons i rest ih =>
      rw [listToJson, Json.normalizeElements, listOfJson, h i List.mem_cons_self,
        ih fun j hj => h j (List.mem_cons_of_mem _ hj)]
      rfl

/-- An item decodes to itself, without the values that are `null`. -/
theorem ofJson_normalize_toJson {i : Item} (h : i.HasValues) :
    ∀ inner, ofJson inner i.toJson.normalize = .ok i.forgetNull := by
  induction h with
  | @leaf field operator value relation isValue =>
      intro inner
      obtain ⟨parts, hpresents, hmem, hlookup⟩ :=
        exists_presents_toJson inner (.leaf field operator value relation)
      refine ofJson_eq_ok_iff.mpr ⟨.leaf, parts, hpresents, ?_, ?_⟩
      · rintro ⟨key, w⟩ hm
        obtain ⟨v, hv, rfl⟩ := hmem _ hm
        exact admits_of_mem_written hv nofun
      · obtain ⟨hfield, hoperator, hvalue, hrelation⟩ :=
          lookup_written_leaf field operator value relation
        rw [Kind.build, hlookup _ (by decide), hlookup _ (by decide), hlookup _ (by decide),
          hlookup _ (by decide), hfield, hoperator, hvalue, hrelation, text?_normalize,
          text?_normalize, text?_normalize, valueOfJson_normalize isValue, forgetNull]
  | @group relation items inside ih =>
      intro inner
      have hitems : itemsOfJson true (Json.array (listToJson items)).normalize =
          .ok (items.map forgetNull) := by
        rw [Json.normalize, itemsOfJson]
        exact listOfJson_normalizeElements fun i hi => ih i hi true
      obtain ⟨parts, hpresents, hmem, hlookup⟩ :=
        exists_presents_toJson inner (.group relation items)
      refine ofJson_eq_ok_iff.mpr ⟨.group, parts, hpresents, ?_, ?_⟩
      · rintro ⟨key, w⟩ hm
        obtain ⟨v, hv, rfl⟩ := hmem _ hm
        refine admits_of_mem_written hv ?_
        rintro _ _ ⟨⟩
        exact ⟨_, hitems⟩
      · obtain ⟨hrelation, harray⟩ := lookup_written_group relation items
        rw [Kind.build, hlookup _ (by decide), hlookup _ (by decide), hrelation, harray,
          text?_normalize, forgetNull, forgetNulls_eq_map, Option.map_some, Option.map_some,
          Option.getD_some, itemsOf, hitems]

end Decoding

section Resolving

variable (resolver : Resolver)

/-- A value that is `null` counts as one that is absent. -/
theorem valueOf_filter (operator : Option String) (value : Option Json) :
    valueOf operator (value.filter fun v => !v.isNull) = valueOf operator value := by
  cases value with
  | none => rfl
  | some v =>
      rw [Option.filter_some]
      cases hnull : v.isNull with
      | true => simp [valueOf, hnull]
      | false => simp

mutual

/-- An item resolves as it does without the values that are `null`. -/
theorem resolve_forgetNull : (item : Item) →
    item.forgetNull.resolve resolver = item.resolve resolver
  | .leaf field operator value relation => by
      rw [forgetNull, resolve, resolve, valueOf_filter]
  | .group relation items => by
      rw [forgetNull, resolve, resolve, resolveAll_forgetNulls items]

theorem resolveAll_forgetNulls : (items : List Item) →
    resolveAll resolver (forgetNulls items) = resolveAll resolver items
  | [] => rfl
  | item :: rest => by
      rw [forgetNulls, resolveAll, resolveAll, resolve_forgetNull item,
        resolveAll_forgetNulls rest]

end

end Resolving

/-- The JSON value of a filter decodes to the filter without the values that are `null`, and both
resolve to the same clause or with the same error. -/
theorem decode_encode {items : List Item} (h : ∀ i ∈ items, i.HasValues) :
    (encode items).IsValue ∧ decode (encode items) = .ok (items.map forgetNull) ∧
      ∀ resolver,
        Clause.ofItems resolver (items.map forgetNull) = Clause.ofItems resolver items := by
  refine ⟨Json.isValue_normalize _, ?_, ?_⟩
  · have hitems : listOfJson false (Json.normalizeElements (listToJson items)) =
        .ok (items.map forgetNull) :=
      listOfJson_normalizeElements fun i hi => ofJson_normalize_toJson (h i hi) false
    rw [encode, Json.normalize, decode, itemsOfJson, hitems]
    rfl
  · intro resolver
    rw [Clause.ofItems, Clause.ofItems, Clause.appendItems, Clause.appendItems,
      ← forgetNulls_eq_map, resolveAll_forgetNulls]

/-- An object as the value of a test. -/
def calmDay : Json :=
  .object [("day", .array [.null, .boolean true]), ("mood", .string "calm")]

/-- A group of a null check whose value is written down, and of a test against an object. -/
def writtenNull : Item :=
  .group (some "or")
    [.leaf (some "route") (some "is null") (some .null) none,
      .leaf (some "mood") none (some calmDay) (some "and")]

/-- The value of the null check is gone after decoding, and the same clause comes of it. -/
theorem decode_encode_writtenNull :
    (∀ i ∈ [writtenNull], i.HasValues) ∧
      decode (encode [writtenNull]) =
        .ok [.group (some "or")
          [.leaf (some "route") (some "is null") none none,
            .leaf (some "mood") none (some calmDay) (some "and")]] ∧
      Clause.ofItems Schema.default.resolver ([writtenNull].map forgetNull) =
        Clause.ofItems Schema.default.resolver [writtenNull] := by
  have hnull : HasValues (.leaf (some "route") (some "is null") (some .null) none) := by
    refine .leaf ?_
    rintro _ ⟨⟩
    exact .null
  have hobject : HasValues (.leaf (some "mood") none (some calmDay) (some "and")) := by
    refine .leaf ?_
    rintro _ ⟨⟩
    exact Json.isValue_normalize calmDay
  have hgroup : writtenNull.HasValues :=
    .group (List.forall_mem_cons.mpr ⟨hnull, List.forall_mem_singleton.mpr hobject⟩)
  have hvalues : ∀ i ∈ [writtenNull], i.HasValues := List.forall_mem_singleton.mpr hgroup
  obtain ⟨-, hdecode, hresolve⟩ := decode_encode hvalues
  exact ⟨hvalues, hdecode, hresolve _⟩

end Item

end FilterQuery
