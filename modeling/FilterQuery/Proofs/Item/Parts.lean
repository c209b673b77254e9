import FilterQuery.Item.Decode
import FilterQuery.Proofs.Outcome

/-!
# The parts of an item

The members of an object are decoded one by one, and what has been met is kept apart for every part.
The same item is given by the parts as a list: an item of a kind is built by looking up its keys.
`Item.ofJson_eq_ok_iff` states this for objects and arrays alike, so that nothing behind it has to
look at parts that have only been met in part, or at the order in which they were met.
-/

namespace FilterQuery

/-- A text, or `null` for one that is absent. -/
def Json.IsOptionalText (j : Json) : Prop := j = .null ∨ ∃ text, j = .string text

/-- The text of a document, if it is one. -/
def Json.text? : Json → Option String
  | .string text => some text
  | _ => none

namespace Item

theorem textOfJson_eq_ok_iff {j : Json} {text : Option String} :
    textOfJson j = .ok text ↔ j.IsOptionalText ∧ text = j.text? := by
  cases j with
  | null => simp [textOfJson, Json.IsOptionalText, Json.text?, eq_comm]
  | string s => simp [textOfJson, Json.IsOptionalText, Json.text?, eq_comm]
  | boolean b => simp [textOfJson, Json.IsOptionalText]
  | number n => simp [textOfJson, Json.IsOptionalText]
  | array js => simp [textOfJson, Json.IsOptionalText]
  | object ms => simp [textOfJson, Json.IsOptionalText]

namespace Kind

/-- The name of a kind. -/
def name : Kind → String
  | leaf => "leaf"
  | group => "group"

/-- The place of a kind among the kinds. -/
def index : Kind → Int
  | leaf => 0
  | group => 1

/-- The names of the parts of an item, in order. -/
def keys : Kind → List String
  | leaf => leafKeys
  | group => groupKeys

/-- A document that stands for the kind: its name, or its index where indices are allowed. -/
inductive Named (indexed : Bool) (kind : Kind) : Json → Prop
  | name : Named indexed kind (.string kind.name)
  | index (allowed : indexed = true) (fits) :
      Named indexed kind (.number (.integer kind.index fits))

theorem ofJson_eq_ok_iff {inner : Bool} {j : Json} {kind : Kind} :
    Kind.ofJson inner j = .ok kind ↔ kind.Named inner j := by
  constructor
  · intro h
    unfold Kind.ofJson at h
    split at h
    · cases h
      exact .name
    · cases h
      exact .name
    · cases h
    · split at h
      · next hallowed =>
        obtain ⟨hinner, -⟩ := Bool.and_eq_true_iff.mp hallowed
        split at h
        · next hindex =>
          cases h
          subst hindex
          exact .index hinner _
        · split at h
          · next hindex =>
            cases h
            subst hindex
            exact .index hinner _
          · cases h
      · cases h
    · cases h
  · intro h
    cases h with
    | name => cases kind <;> rfl
    | index allowed fits =>
        subst allowed
        cases kind <;> rfl

end Kind

/-- The members of an object but its kind. -/
def partsOf (members : List (String × Json)) : List (String × Json) :=
  members.filter fun m => !(m.1 == "kind")

theorem partsOf_cons {key : String} (h : key ≠ "kind") (value : Json)
    (rest : List (String × Json)) :
    partsOf ((key, value) :: rest) = (key, value) :: partsOf rest := by
  simp [partsOf, h]

theorem lookup_partsOf {members : List (String × Json)} {key : String} (h : key ≠ "kind") :
    (partsOf members).lookup key = members.lookup key := by
  induction members with
  | nil => rfl
  | cons m rest ih =>
      obtain ⟨k, v⟩ := m
      by_cases hk : k = "kind"
      · subst hk
        rw [List.lookup_cons, beq_eq_false_iff_ne.mpr h]
        exact ih
      · rw [partsOf_cons hk, List.lookup_cons, List.lookup_cons, ih]

/-- The items of a document. -/
def itemsOf (j : Json) : List Item :=
  match itemsOfJson true j with
  | .ok items => items
  | .error _ => []

/-- A part that an item of the kind may have. -/
def Kind.Admits : Kind → String × Json → Prop
  | leaf, (key, value) => key ∈ leafKeys ∧ (key ≠ "value" → value.IsOptionalText)
  | group, (key, value) =>
    key = "relation" ∧ value.IsOptionalText ∨
      key = "items" ∧ ∃ items, itemsOfJson true value = .ok items

/-- The item with the given parts. -/
def Kind.build : Kind → List (String × Json) → Item
  | .leaf, parts =>
    .leaf ((parts.lookup "field").bind Json.text?) ((parts.lookup "operator").bind Json.text?)
      ((parts.lookup "value").bind valueOfJson) ((parts.lookup "relation").bind Json.text?)
  | .group, parts =>
    .group ((parts.lookup "relation").bind Json.text?)
      (((parts.lookup "items").map itemsOf).getD [])

theorem lookup_append_singleton_eq_none_iff {parts : List (String × Json)} {m : String × Json}
    {key : String} :
    (parts ++ [m]).lookup key = none ↔ parts.lookup key = none ∧ key ≠ m.1 := by
  rw [List.lookup_append, Option.or_eq_none_iff, List.lookup_eq_none_iff (l := [m])]
  simp

/-- Decoding members one by one, when some parts have been met already: a kind is passed over, and
any other member has to be admitted and must not have been met. -/
structure TakesParts (k : Kind)
    (run : List (String × Json) → List (String × Json) → Except DecodeProblem Item) :
    Prop where
  done : ∀ parts, run parts [] = .ok (k.build parts)
  skip : ∀ parts value rest, run parts (("kind", value) :: rest) = run parts rest
  take : ∀ parts m rest i, m.1 ≠ "kind" →
    (run parts (m :: rest) = .ok i ↔
      (k.Admits m ∧ parts.lookup m.1 = none) ∧ run (parts ++ [m]) rest = .ok i)

theorem TakesParts.eq_ok_iff {k : Kind}
    {run : List (String × Json) → List (String × Json) → Except DecodeProblem Item}
    (h : TakesParts k run) {parts members : List (String × Json)} {i : Item} :
    run parts members = .ok i ↔
      (∀ m ∈ partsOf members, k.Admits m ∧ parts.lookup m.1 = none) ∧
        ((partsOf members).map (·.1)).Nodup ∧ k.build (parts ++ partsOf members) = i := by
  induction members generalizing parts with
  | nil =>
      rw [h.done, Except.ok.injEq]
      simp [partsOf]
  | cons m rest ih =>
      obtain ⟨key, value⟩ := m
      by_cases hkey : key = "kind"
      · subst hkey
        exact (h.skip parts value rest) ▸ ih
      · rw [h.take _ _ _ _ hkey, ih, partsOf_cons hkey]
        simp only [lookup_append_singleton_eq_none_iff, List.forall_mem_cons, List.map_cons,
          List.nodup_cons, List.append_assoc, List.singleton_append, List.mem_map, not_exists,
          not_and]
        constructor
        · rintro ⟨hm, hrest, hnodup, rfl⟩
          exact ⟨⟨hm, fun n hn => ⟨(hrest n hn).1, (hrest n hn).2.1⟩⟩,
            ⟨fun n hn => (hrest n hn).2.2, hnodup⟩, rfl⟩
        · rintro ⟨⟨hm, hrest⟩, ⟨hfresh, hnodup⟩, rfl⟩
          exact ⟨hm, fun n hn => ⟨(hrest n hn).1, (hrest n hn).2, hfresh n hn⟩, hnodup, rfl⟩

/-- Decoding from the start: all parts have to be admitted and to have keys of their own. -/
theorem TakesParts.start_eq_ok_iff {k : Kind}
    {run : List (String × Json) → List (String × Json) → Except DecodeProblem Item}
    (h : TakesParts k run) {members : List (String × Json)} {i : Item} :
    run [] members = .ok i ↔
      (∀ m ∈ partsOf members, k.Admits m) ∧ ((partsOf members).map (·.1)).Nodup ∧
        k.build (partsOf members) = i := by
  rw [h.eq_ok_iff]
  simp only [List.lookup_nil, and_true, List.nil_append]

section Once

variable {α β γ : Type} {slot : Option α} {e : DecodeProblem} {c : γ}

/-- A part is decoded unless it has been met already. -/
theorem once_eq_ok_iff {x : Except DecodeProblem β} {f : β → Except DecodeProblem γ} :
    (if slot.isSome then .error e else x >>= f) = .ok c ↔
      slot = none ∧ ∃ b, x = .ok b ∧ f b = .ok c := by
  cases slot with
  | none => simpa using Outcome.bind_eq_ok_iff
  | some a => simp

theorem onceText_eq_ok_iff {j : Json} {f : Option String → Except DecodeProblem γ} :
    (if slot.isSome then .error e else textOfJson j >>= f) = .ok c ↔
      slot = none ∧ j.IsOptionalText ∧ f j.text? = .ok c := by
  rw [once_eq_ok_iff]
  simp only [textOfJson_eq_ok_iff, and_assoc, exists_and_left, exists_eq_left]

end Once

section Leaf

/-- What has been met of a leaf when the given members have been taken. -/
def LeafParts.ofMembers (parts : List (String × Json)) : LeafParts where
  field := (parts.lookup "field").map Json.text?
  operator := (parts.lookup "operator").map Json.text?
  value := (parts.lookup "value").map valueOfJson
  relation := (parts.lookup "relation").map Json.text?

theorem getD_map_none {α β : Type} (o : Option α) (f : α → Option β) :
    (o.map f).getD none = o.bind f := by
  cases o <;> rfl

theorem LeafParts.toItem_ofMembers (parts : List (String × Json)) :
    (LeafParts.ofMembers parts).toItem = Kind.leaf.build parts := by
  simp only [toItem, ofMembers, Kind.build, getD_map_none]

section Take

variable {parts : List (String × Json)} {p : LeafParts}

/-- A text is taken when it has not been met. -/
theorem takeText_eq_ok_iff {key : String} {value : Json} {e : DecodeProblem}
    {put : Option String → LeafParts} (hkey : key ∈ leafKeys) (hvalue : key ≠ "value")
    (hput : parts.lookup key = none →
      put value.text? = LeafParts.ofMembers (parts ++ [(key, value)])) :
    (if ((parts.lookup key).map Json.text?).isSome then .error e
      else textOfJson value >>= fun text => pure (put text)) = .ok p ↔
      (Kind.leaf.Admits (key, value) ∧ parts.lookup key = none) ∧
        LeafParts.ofMembers (parts ++ [(key, value)]) = p := by
  have hadmits : Kind.leaf.Admits (key, value) ↔ value.IsOptionalText := by
    simp [Kind.Admits, hkey, hvalue]
  rw [onceText_eq_ok_iff, hadmits]
  cases hmet : parts.lookup key with
  | some v => simp
  | none =>
      rw [hput hmet]
      simp [pure, Except.pure]

/-- One more member is taken when a leaf may have it and it has not been met. -/
theorem LeafParts.take_ofMembers_eq_ok_iff {m : String × Json} :
    (LeafParts.ofMembers parts).take m.1 m.2 = .ok p ↔
      (Kind.leaf.Admits m ∧ parts.lookup m.1 = none) ∧
        LeafParts.ofMembers (parts ++ [m]) = p := by
  obtain ⟨key, value⟩ := m
  rw [take.eq_def]
  dsimp only
  split
  · exact takeText_eq_ok_iff (by decide) (by decide) fun hmet => by
      simp [ofMembers, hmet, List.lookup_append, List.lookup_cons]
  · exact takeText_eq_ok_iff (by decide) (by decide) fun hmet => by
      simp [ofMembers, hmet, List.lookup_append, List.lookup_cons]
  · cases hmet : parts.lookup "value" with
    | some v => simp [ofMembers, hmet]
    | none =>
        simp [ofMembers, hmet, Kind.Admits, leafKeys, List.lookup_append, List.lookup_cons, pure,
          Except.pure]
  · exact takeText_eq_ok_iff (by decide) (by decide) fun hmet => by
      simp [ofMembers, hmet, List.lookup_append, List.lookup_cons]
  · next hfield hoperator hvalue hrelation =>
    constructor
    · intro h
      cases h
    · rintro ⟨⟨⟨hkey, -⟩, -⟩, -⟩
      simp only [leafKeys, List.mem_cons, List.not_mem_nil, or_false] at hkey
      rcases hkey with hkey | hkey | hkey | hkey
      · exact (hfield hkey).elim
      · exact (hoperator hkey).elim
      · exact (hvalue hkey).elim
      · exact (hrelation hkey).elim

end Take

theorem takesParts_leaf :
    TakesParts .leaf fun parts members => leafOfMembers (LeafParts.ofMembers parts) members where
  done parts := congrArg Except.ok (LeafParts.toItem_ofMembers parts)
  skip parts value rest := rfl
  take parts m rest i hkey := by
    rw [leafOfMembers, if_neg hkey, Outcome.bind_eq_ok_iff]
    simp only [LeafParts.take_ofMembers_eq_ok_iff, and_assoc, exists_and_left, exists_eq_left']

end Leaf

section Group

/-- What has been met of a group when the given members have been taken. -/
def GroupParts.ofMembers (parts : List (String × Json)) : GroupParts where
  relation := (parts.lookup "relation").map Json.text?
  items := (parts.lookup "items").map itemsOf

theorem GroupParts.toItem_ofMembers (parts : List (String × Json)) :
    (GroupParts.ofMembers parts).toItem = Kind.group.build parts := by
  simp only [toItem, ofMembers, Kind.build, getD_map_none]

theorem takesParts_group :
    TakesParts .group fun parts members =>
      groupOfMembers (GroupParts.ofMembers parts) members where
  done parts := by
    rw [groupOfMembers, GroupParts.toItem_ofMembers]
  skip parts value rest := by
    rw [groupOfMembers]
  take parts m rest i hkey := by
    obtain ⟨key, value⟩ := m
    dsimp only
    rw [groupOfMembers.eq_def]
    dsimp only
    split
    · exact absurd rfl hkey
    · rw [onceText_eq_ok_iff]
      cases hmet : parts.lookup "relation" with
      | some v => simp [GroupParts.ofMembers, hmet]
      | none => simp [GroupParts.ofMembers, hmet, Kind.Admits, List.lookup_append, List.lookup_cons]
    · rw [once_eq_ok_iff]
      cases hmet : parts.lookup "items" with
      | some v => simp [GroupParts.ofMembers, hmet]
      | none =>
        cases hitems : itemsOfJson true value with
        | error e => simp [GroupParts.ofMembers, hmet, Kind.Admits, hitems]
        | ok items =>
            simp [GroupParts.ofMembers, hmet, Kind.Admits, hitems, List.lookup_append,
              List.lookup_cons, itemsOf]
    · next hkind hrelation hitems =>
      constructor
      · intro h
        cases h
      · rintro ⟨⟨hadmits, -⟩, -⟩
        rcases hadmits with ⟨hkey, -⟩ | ⟨hkey, -⟩
        · exact (hrelation hkey).elim
        · exact (hitems hkey).elim

end Group

section Elements

theorem elim_textOfJson_eq_ok_iff {j? : Option Json} {text : Option String} :
    j?.elim (.ok none) textOfJson = .ok text ↔
      (∀ j ∈ j?, j.IsOptionalText) ∧ text = j?.bind Json.text? := by
  cases j? with
  | none => simp [eq_comm]
  | some j => simp [textOfJson_eq_ok_iff]

/-- The elements of a leaf are its parts in the order of their keys. -/
theorem leafOfElements_eq_ok_iff {elements : List Json} {i : Item} :
    leafOfElements elements = .ok i ↔
      elements.length ≤ Kind.leaf.keys.length ∧
        (∀ m ∈ Kind.leaf.keys.zip elements, Kind.leaf.Admits m) ∧
        Kind.leaf.build (Kind.leaf.keys.zip elements) = i := by
  rw [leafOfElements]
  simp only [Outcome.bind_eq_ok_iff, elim_textOfJson_eq_ok_iff, and_assoc, exists_and_left,
    exists_eq_left]
  rcases elements with _ | ⟨field, _ | ⟨operator, _ | ⟨value, _ | ⟨relation, _ | ⟨e, rest⟩⟩⟩⟩⟩
  all_goals
    simp [Kind.keys, Kind.Admits, Kind.build, leafKeys, List.lookup_cons, and_assoc, pure,
      Except.pure, throw, throwThe, MonadExceptOf.throw, bind, Except.bind]

/-- The elements of a group are its parts in the order of their keys. -/
theorem groupOfElements_eq_ok_iff {elements : List Json} {i : Item} :
    groupOfElements elements = .ok i ↔
      elements.length ≤ Kind.group.keys.length ∧
        (∀ m ∈ Kind.group.keys.zip elements, Kind.group.Admits m) ∧
        Kind.group.build (Kind.group.keys.zip elements) = i := by
  rcases elements with _ | ⟨relation, _ | ⟨items, surplus⟩⟩
  · simp [groupOfElements, Kind.keys, Kind.build, groupKeys]
  · rw [groupOfElements, Outcome.bind_eq_ok_iff]
    simp [Kind.keys, Kind.build, groupKeys, Kind.Admits, List.lookup_cons, textOfJson_eq_ok_iff,
      and_assoc, pure, Except.pure]
  · rw [groupOfElements]
    simp only [Outcome.bind_eq_ok_iff, textOfJson_eq_ok_iff, and_assoc, exists_and_left,
      exists_eq_left]
    cases hitems : itemsOfJson true items with
    | error e => simp [Kind.keys, Kind.build, groupKeys, Kind.Admits, hitems]
    | ok is =>
        cases surplus with
        | nil =>
            simp [Kind.keys, Kind.build, groupKeys, Kind.Admits, List.lookup_cons, hitems, itemsOf,
              pure, Except.pure]
        | cons e rest =>
            simp [Kind.keys, groupKeys, throw, throwThe, MonadExceptOf.throw, Functor.map,
              Except.map]

end Elements

section Members

variable {members : List (String × Json)} {tag : Json} {inner : Bool} {k : Kind}

theorem kindOfMembers_eq_ok_iff :
    kindOfMembers inner members = .ok k ↔
      ∃ tag, members.filter (·.1 == "kind") = [("kind", tag)] ∧ k.Named inner tag := by
  rw [kindOfMembers.eq_def]
  split
  · next hnone =>
    rw [hnone]
    simp
  · next key tag again hsome =>
    have hkey : key = "kind" := by
      have hmem : (key, tag) ∈ members.filter (·.1 == "kind") := by
        rw [hsome]
        exact List.mem_cons_self
      exact eq_of_beq (List.mem_filter.mp hmem).2
    subst hkey
    rw [hsome, Outcome.bind_eq_ok_iff]
    simp only [Kind.ofJson_eq_ok_iff]
    cases again with
    | nil => simp [pure, Except.pure, and_comm]
    | cons m rest => simp [throw, throwThe, MonadExceptOf.throw]

/-- An object has distinct keys and a kind when it has one kind and its parts have distinct keys. -/
theorem nodup_and_mem_iff :
    (members.map (·.1)).Nodup ∧ ("kind", tag) ∈ members ↔
      members.filter (·.1 == "kind") = [("kind", tag)] ∧ ((partsOf members).map (·.1)).Nodup := by
  have hperm := (List.filter_append_perm (fun m : String × Json => m.1 == "kind") members).map (·.1)
  rw [← hperm.nodup_iff, List.map_append, List.nodup_append]
  have hkeys : ∀ m ∈ members.filter (·.1 == "kind"), m.1 = "kind" := fun m hm =>
    eq_of_beq (List.mem_filter.mp hm).2
  constructor
  · rintro ⟨⟨hkinds, hparts, -⟩, hmem⟩
    refine ⟨?_, hparts⟩
    have htag : ("kind", tag) ∈ members.filter (·.1 == "kind") :=
      List.mem_filter.mpr ⟨hmem, rfl⟩
    rcases hfilter : members.filter (·.1 == "kind") with _ | ⟨m, _ | ⟨n, rest⟩⟩
    · rw [hfilter] at htag
      cases htag
    · rw [hfilter] at htag
      rw [List.mem_singleton.mp htag]
      exact hfilter
    · rw [hfilter] at hkinds hkeys
      have heq : m.1 = n.1 := (hkeys m (by simp)).trans (hkeys n (by simp)).symm
      simp [heq] at hkinds
  · rintro ⟨hfilter, hparts⟩
    have hmem : ("kind", tag) ∈ members.filter (·.1 == "kind") := by
      rw [hfilter]
      exact List.mem_cons_self
    refine ⟨⟨by simp [hfilter], hparts, ?_⟩, (List.mem_filter.mp hmem).1⟩
    rintro a ha b hb rfl
    obtain ⟨m, hm, rfl⟩ := List.mem_map.mp ha
    obtain ⟨n, hn, heq⟩ := List.mem_map.mp hb
    have hother := (List.mem_filter.mp hn).2
    rw [heq, hkeys m hm] at hother
    cases hother

end Members

/-- The parts of an item of the kind: the members of an object beside its kind, or the elements of
an array behind its kind in the order of the keys. -/
inductive Presents (indexed : Bool) (k : Kind) : Json → List (String × Json) → Prop
  | object {members : List (String × Json)} {tag : Json} (distinct : (members.map (·.1)).Nodup)
      (kind : ("kind", tag) ∈ members) (named : k.Named indexed tag) :
      Presents indexed k (.object members) (partsOf members)
  | array {tag : Json} {elements : List Json} (named : k.Named indexed tag)
      (length : elements.length ≤ k.keys.length) :
      Presents indexed k (.array (tag :: elements)) (k.keys.zip elements)

/-- A document decodes to the item of the parts that it presents, when all of them are admitted. -/
theorem ofJson_eq_ok_iff {inner : Bool} {j : Json} {i : Item} :
    ofJson inner j = .ok i ↔
      ∃ k parts, Presents inner k j parts ∧ (∀ m ∈ parts, k.Admits m) ∧ k.build parts = i := by
  constructor
  · intro h
    unfold ofJson at h
    split at h
    · next members =>
      obtain ⟨k, hk, h⟩ := Outcome.bind_eq_ok_iff.mp h
      obtain ⟨tag, htag, hnamed⟩ := kindOfMembers_eq_ok_iff.mp hk
      have hparts : (∀ m ∈ partsOf members, k.Admits m) ∧ ((partsOf members).map (·.1)).Nodup ∧
          k.build (partsOf members) = i := by
        cases k with
        | leaf => exact takesParts_leaf.start_eq_ok_iff.mp h
        | group => exact takesParts_group.start_eq_ok_iff.mp h
      obtain ⟨hdistinct, hmem⟩ := nodup_and_mem_iff.mpr ⟨htag, hparts.2.1⟩
      exact ⟨k, _, .object hdistinct hmem hnamed, hparts.1, hparts.2.2⟩
    · cases h
    · next tag elements =>
      obtain ⟨k, hk, h⟩ := Outcome.bind_eq_ok_iff.mp h
      have hnamed := Kind.ofJson_eq_ok_iff.mp hk
      cases k with
      | leaf =>
          obtain ⟨hlength, hadmits, hbuild⟩ := leafOfElements_eq_ok_iff.mp h
          exact ⟨.leaf, _, .array hnamed hlength, hadmits, hbuild⟩
      | group =>
          obtain ⟨hlength, hadmits, hbuild⟩ := groupOfElements_eq_ok_iff.mp h
          exact ⟨.group, _, .array hnamed hlength, hadmits, hbuild⟩
    · cases h
  · rintro ⟨k, parts, hpresents, hadmits, rfl⟩
    cases hpresents with
    | object distinct kind named =>
        obtain ⟨htag, hparts⟩ := nodup_and_mem_iff.mp ⟨distinct, kind⟩
        rw [ofJson, kindOfMembers_eq_ok_iff.mpr ⟨_, htag, named⟩]
        cases k with
        | leaf => exact takesParts_leaf.start_eq_ok_iff.mpr ⟨hadmits, hparts, rfl⟩
        | group => exact takesParts_group.start_eq_ok_iff.mpr ⟨hadmits, hparts, rfl⟩
    | array named length =>
        rw [ofJson, Kind.ofJson_eq_ok_iff.mpr named]
        cases k with
        | leaf => exact leafOfElements_eq_ok_iff.mpr ⟨length, hadmits, rfl⟩
        | group => exact groupOfElements_eq_ok_iff.mpr ⟨length, hadmits, rfl⟩

/-- A list decodes when each of its elements does. -/
theorem exists_listOfJson_iff {inner : Bool} {js : List Json} :
    (∃ items, listOfJson inner js = .ok items) ↔ ∀ j ∈ js, ∃ i, ofJson inner j = .ok i := by
  induction js with
  | nil => simp [listOfJson]
  | cons j rest ih =>
      rw [List.forall_mem_cons, ← ih, listOfJson]
      constructor
      · rintro ⟨items, h⟩
        obtain ⟨i, hi, h⟩ := Outcome.bind_eq_ok_iff.mp h
        obtain ⟨is, his, -⟩ := Outcome.bind_eq_ok_iff.mp h
        exact ⟨⟨i, hi⟩, is, his⟩
      · rintro ⟨⟨i, hi⟩, is, his⟩
        rw [hi, his]
        exact ⟨i :: is, rfl⟩

theorem exists_itemsOfJson_iff {inner : Bool} {j : Json} :
    (∃ items, itemsOfJson inner j = .ok items) ↔
      ∃ js, j = .array js ∧ ∀ e ∈ js, ∃ i, ofJson inner e = .ok i := by
  cases j with
  | array js => simp [itemsOfJson, exists_listOfJson_iff]
  | _ => simp [itemsOfJson]

end Item
end FilterQuery
