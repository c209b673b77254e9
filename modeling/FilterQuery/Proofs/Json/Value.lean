import FilterQuery.Json.Basic

/-!
# JSON values

A document is a value when the members of every object in it are sorted by key, each key once.
Normalising gives a value and leaves values as they are. Looking up a key in a normalised object
gives the last member with the key in the document.
-/

namespace FilterQuery.Json

/-- Induction on documents, with the hypothesis for every element and every member. -/
@[elab_as_elim]
theorem memberInduction {motive : Json → Prop} (null : motive .null)
    (boolean : ∀ b, motive (.boolean b)) (number : ∀ n, motive (.number n))
    (string : ∀ s, motive (.string s))
    (array : ∀ js, (∀ j ∈ js, motive j) → motive (.array js))
    (object : ∀ ms, (∀ m ∈ ms, motive m.2) → motive (.object ms)) : (j : Json) → motive j
  | .null => null
  | .boolean b => boolean b
  | .number n => number n
  | .string s => string s
  | .array js => array js fun j _ => memberInduction null boolean number string array object j
  | .object ms => object ms fun (_, j) _ =>
      memberInduction null boolean number string array object j
termination_by j => j
decreasing_by
  · have hlt := List.sizeOf_lt_of_mem ‹_ ∈ js›
    rw [Json.array.sizeOf_spec]
    omega
  · have hlt := List.sizeOf_lt_of_mem ‹_ ∈ ms›
    rw [Prod.mk.sizeOf_spec] at hlt
    rw [Json.object.sizeOf_spec]
    omega

/-- The members are sorted by key, each key once. -/
def Sorted (members : List (String × Json)) : Prop := members.Pairwise fun m n => m.1 < n.1

/-- The members of every object are sorted by key, each key once. -/
inductive IsValue : Json → Prop
  | null : IsValue .null
  | boolean (b : Bool) : IsValue (.boolean b)
  | number (n : Number) : IsValue (.number n)
  | string (s : String) : IsValue (.string s)
  | array {js : List Json} (elements : ∀ j ∈ js, IsValue j) : IsValue (.array js)
  | object {ms : List (String × Json)} (sorted : Sorted ms) (members : ∀ m ∈ ms, IsValue m.2) :
      IsValue (.object ms)

theorem Sorted.nodup {members : List (String × Json)} (h : Sorted members) :
    (members.map (·.1)).Nodup := by
  rw [List.nodup_iff_pairwise_ne, List.pairwise_map]
  refine h.imp ?_
  intro m n hlt heq
  rw [heq] at hlt
  exact String.lt_irrefl _ hlt

section Lookup

variable {members : List (String × Json)} {key : String} {value : Json}

theorem mem_of_lookup_eq_some (h : members.lookup key = some value) : (key, value) ∈ members := by
  obtain ⟨front, back, rfl, -⟩ := List.lookup_eq_some_iff.mp h
  simp

/-- Among members with distinct keys a look-up finds the only one with the key. -/
theorem lookup_eq_some_iff_mem (h : (members.map (·.1)).Nodup) :
    members.lookup key = some value ↔ (key, value) ∈ members := by
  refine ⟨mem_of_lookup_eq_some, ?_⟩
  intro hmem
  obtain ⟨front, back, rfl⟩ := List.append_of_mem hmem
  refine List.lookup_eq_some_iff.mpr ⟨front, back, rfl, ?_⟩
  intro m hm
  rw [List.map_append, List.nodup_append] at h
  have hne : m.1 ≠ key := h.2.2 m.1 (List.mem_map_of_mem hm) key (by simp)
  simpa using hne.symm

/-- Where keys are distinct it does not matter from which end one looks. -/
theorem lookup_reverse (h : (members.map (·.1)).Nodup) (key : String) :
    members.reverse.lookup key = members.lookup key := by
  have hreverse : (members.reverse.map (·.1)).Nodup :=
    (members.reverse_perm.map (·.1)).nodup_iff.mpr h
  refine Option.ext fun value => ?_
  rw [lookup_eq_some_iff_mem hreverse, lookup_eq_some_iff_mem h, List.mem_reverse]

end Lookup

section Insert

variable {key : String} {value : Json} {members : List (String × Json)}

theorem mem_insertMember {m : String × Json} (h : m ∈ insertMember key value members) :
    m = (key, value) ∨ m ∈ members := by
  induction members with
  | nil => simpa [insertMember] using h
  | cons head rest ih =>
      obtain ⟨k, v⟩ := head
      rw [insertMember] at h
      split at h
      · simpa using h
      · split at h
        · rcases List.mem_cons.mp h with rfl | hrest
          · exact .inl rfl
          · exact .inr (List.mem_cons_of_mem _ hrest)
        · rcases List.mem_cons.mp h with rfl | hrest
          · exact .inr (List.mem_cons_self ..)
          · exact (ih hrest).imp_right (List.mem_cons_of_mem _)

theorem Sorted.insertMember (h : Sorted members) : Sorted (insertMember key value members) := by
  induction members with
  | nil => exact List.pairwise_singleton _ _
  | cons head rest ih =>
      obtain ⟨k, v⟩ := head
      obtain ⟨hhead, hrest⟩ := List.pairwise_cons.mp h
      rw [Json.insertMember]
      split
      · next hlt =>
        refine List.pairwise_cons.mpr ⟨?_, h⟩
        intro m hm
        rcases List.mem_cons.mp hm with rfl | hm
        · exact hlt
        · exact String.lt_trans hlt (hhead m hm)
      · next hnlt =>
        split
        · next heq =>
          subst heq
          exact List.pairwise_cons.mpr ⟨hhead, hrest⟩
        · next hne =>
          refine List.pairwise_cons.mpr ⟨?_, ih hrest⟩
          intro m hm
          rcases mem_insertMember hm with rfl | hm
          · rcases Decidable.em (k < key) with hlt | hle
            · exact hlt
            · exact absurd (String.le_antisymm (String.not_lt.mp hle) (String.not_lt.mp hnlt)) hne
          · exact hhead m hm

/-- A key behind all others goes to the end. -/
theorem insertMember_of_forall_lt (h : ∀ m ∈ members, m.1 < key) :
    insertMember key value members = members ++ [(key, value)] := by
  induction members with
  | nil => rfl
  | cons head rest ih =>
      obtain ⟨k, v⟩ := head
      have hlt : k < key := h (k, v) (by simp)
      have hne : key ≠ k := by
        rintro rfl
        exact String.lt_irrefl _ hlt
      rw [insertMember, if_neg (String.lt_asymm hlt), if_neg hne,
        ih fun m hm => h m (by simp [hm]), List.cons_append]

theorem lookup_insertMember (k : String) :
    (insertMember key value members).lookup k =
      if k == key then some value else members.lookup k := by
  induction members with
  | nil =>
      rw [insertMember, List.lookup_cons]
      cases k == key <;> rfl
  | cons head rest ih =>
      obtain ⟨k', v⟩ := head
      rw [insertMember]
      split
      · rw [List.lookup_cons]
        cases k == key <;> rfl
      · split
        · next heq =>
          subst heq
          rw [List.lookup_cons, List.lookup_cons]
          cases k == key <;> rfl
        · next hne =>
          rw [List.lookup_cons, List.lookup_cons, ih]
          cases hk : k == k' with
          | true =>
              have hkey : (k == key) = false := by
                rw [eq_of_beq hk]
                exact beq_eq_false_iff_ne.mpr (Ne.symm hne)
              simp [hkey]
          | false => rfl

end Insert

section Normalize

variable {sorted members : List (String × Json)}

theorem normalizeElements_eq_map (js : List Json) : normalizeElements js = js.map normalize := by
  induction js with
  | nil => rfl
  | cons j rest ih => rw [normalizeElements, ih, List.map_cons]

theorem mem_normalizeMembers {m : String × Json} (h : m ∈ normalizeMembers sorted members) :
    m ∈ sorted ∨ ∃ v, (m.1, v) ∈ members ∧ m.2 = v.normalize := by
  induction members generalizing sorted with
  | nil => exact .inl h
  | cons head rest ih =>
      obtain ⟨k, v⟩ := head
      rw [normalizeMembers] at h
      rcases ih h with hsorted | ⟨w, hw, hm⟩
      · rcases mem_insertMember hsorted with rfl | hmem
        · exact .inr ⟨v, by simp, rfl⟩
        · exact .inl hmem
      · exact .inr ⟨w, by simp [hw], hm⟩

theorem Sorted.normalizeMembers (h : Sorted sorted) (members : List (String × Json)) :
    Sorted (normalizeMembers sorted members) := by
  induction members generalizing sorted with
  | nil => exact h
  | cons head rest ih => exact ih h.insertMember

/-- Normalising gives a value. -/
theorem isValue_normalize (j : Json) : j.normalize.IsValue := by
  induction j using memberInduction with
  | null => exact .null
  | boolean b => exact .boolean b
  | number n => exact .number n
  | string s => exact .string s
  | array js ih =>
      rw [normalize, normalizeElements_eq_map]
      refine .array fun j hj => ?_
      obtain ⟨i, hi, rfl⟩ := List.mem_map.mp hj
      exact ih i hi
  | object ms ih =>
      rw [normalize]
      refine .object (Sorted.normalizeMembers List.Pairwise.nil ms) fun m hm => ?_
      rcases mem_normalizeMembers hm with hnil | ⟨v, hv, heq⟩
      · cases hnil
      · rw [heq]
        exact ih _ hv

/-- Members that are sorted behind those already there are put behind them one by one. -/
theorem normalizeMembers_eq_append (h : Sorted (sorted ++ members))
    (hmembers : ∀ m ∈ members, m.2.normalize = m.2) :
    normalizeMembers sorted members = sorted ++ members := by
  induction members generalizing sorted with
  | nil => rw [normalizeMembers, List.append_nil]
  | cons head rest ih =>
      obtain ⟨k, v⟩ := head
      have hlt : ∀ m ∈ sorted, m.1 < k := fun m hm =>
        (List.pairwise_append.mp h).2.2 m hm (k, v) (by simp)
      have hv : v.normalize = v := hmembers (k, v) (by simp)
      have hmove : sorted ++ (k, v) :: rest = sorted ++ [(k, v)] ++ rest := by simp
      rw [hmove] at h
      rw [normalizeMembers, hv, insertMember_of_forall_lt hlt,
        ih h fun m hm => hmembers m (by simp [hm]), hmove]

/-- A value stays as it is. -/
theorem normalize_of_isValue {j : Json} (h : j.IsValue) : j.normalize = j := by
  induction h with
  | null => rfl
  | boolean b => rfl
  | number n => rfl
  | string s => rfl
  | array elements ih =>
      rw [normalize, normalizeElements_eq_map]
      exact congrArg Json.array ((List.map_congr_left ih).trans (List.map_id _))
  | @object ms sorted members ih =>
      have hmembers : normalizeMembers [] ms = [] ++ ms := normalizeMembers_eq_append sorted ih
      rw [normalize, hmembers, List.nil_append]

/-- Of the members with a key the last one counts. -/
theorem lookup_normalizeMembers (key : String) :
    (normalizeMembers sorted members).lookup key =
      ((members.reverse.lookup key).map normalize).or (sorted.lookup key) := by
  induction members generalizing sorted with
  | nil => rfl
  | cons head rest ih =>
      obtain ⟨k, v⟩ := head
      rw [normalizeMembers, ih, lookup_insertMember, List.reverse_cons, List.lookup_append,
        List.lookup_cons]
      cases rest.reverse.lookup key with
      | some w => rfl
      | none => cases key == k <;> rfl

/-- Normalising members with distinct keys normalises each of them. -/
theorem lookup_normalizeMembers_of_nodup (h : (members.map (·.1)).Nodup) (key : String) :
    (normalizeMembers [] members).lookup key = (members.lookup key).map normalize := by
  rw [lookup_normalizeMembers, lookup_reverse h, List.lookup_nil, Option.or_none]

end Normalize

end FilterQuery.Json
