import FilterQuery.Proofs.Json.Value

/-!
# The order of members

Where no object repeats a key, the value of a document does not depend on the order in which members
were written, at any depth: normalising only sorts the members, so documents that differ in nothing
but the order of members have the same value. `Json.Reordered.normalize_eq` states this.
-/

namespace FilterQuery.Json

/-- No object in the document repeats a key. -/
inductive HasDistinctKeys : Json → Prop
  | null : HasDistinctKeys .null
  | boolean (b : Bool) : HasDistinctKeys (.boolean b)
  | number (n : Number) : HasDistinctKeys (.number n)
  | string (s : String) : HasDistinctKeys (.string s)
  | array {js : List Json} (elements : ∀ j ∈ js, HasDistinctKeys j) : HasDistinctKeys (.array js)
  | object {ms : List (String × Json)} (distinct : (ms.map (·.1)).Nodup)
      (members : ∀ m ∈ ms, HasDistinctKeys m.2) : HasDistinctKeys (.object ms)

/-- Two documents differ in nothing but the order of members, in any number of objects. -/
inductive Reordered : Json → Json → Prop
  | refl (j : Json) : Reordered j j
  | trans {i j k : Json} (first : Reordered i j) (second : Reordered j k) : Reordered i k
  | object {ms ns : List (String × Json)} (moved : ms.Perm ns) :
      Reordered (.object ms) (.object ns)
  | element {front back : List Json} {j k : Json} (inside : Reordered j k) :
      Reordered (.array (front ++ j :: back)) (.array (front ++ k :: back))
  | member {front back : List (String × Json)} {key : String} {j k : Json}
      (inside : Reordered j k) :
      Reordered (.object (front ++ (key, j) :: back)) (.object (front ++ (key, k) :: back))

/-- A member with its value normalised. -/
def normalizeMember (m : String × Json) : String × Json := (m.1, m.2.normalize)

theorem map_fst_normalizeMember (ms : List (String × Json)) :
    (ms.map normalizeMember).map (·.1) = ms.map (·.1) := by
  rw [List.map_map]
  rfl

section Permutation

variable {key : String} {value : Json} {sorted members members' : List (String × Json)}

/-- A key that is not there yet makes one more member. -/
theorem perm_insertMember (h : key ∉ members.map (·.1)) :
    (insertMember key value members).Perm ((key, value) :: members) := by
  induction members with
  | nil => exact List.Perm.refl _
  | cons head rest ih =>
      obtain ⟨k, v⟩ := head
      rw [List.map_cons, List.mem_cons, not_or] at h
      obtain ⟨hne, hrest⟩ := h
      rw [insertMember]
      split
      · exact List.Perm.refl _
      · exact ((ih hrest).cons (k, v)).trans (List.Perm.swap ..)

/-- Where keys are distinct, normalising members sorts them and loses none. -/
theorem perm_normalizeMembers (h : ((sorted ++ members).map (·.1)).Nodup) :
    (normalizeMembers sorted members).Perm (sorted ++ members.map normalizeMember) := by
  induction members generalizing sorted with
  | nil => simp [normalizeMembers]
  | cons head rest ih =>
      obtain ⟨k, v⟩ := head
      have hmove : (sorted ++ (k, v) :: rest).Perm ((k, v) :: (sorted ++ rest)) :=
        List.perm_middle
      have hdistinct := ((hmove.map (·.1)).nodup_iff).mp h
      rw [List.map_cons, List.nodup_cons, List.map_append, List.mem_append, not_or] at hdistinct
      obtain ⟨⟨hfresh, hrest⟩, hnodup⟩ := hdistinct
      have hinsert : (insertMember k v.normalize sorted).Perm ((k, v.normalize) :: sorted) :=
        perm_insertMember hfresh
      have hkeys : ((insertMember k v.normalize sorted ++ rest).map (·.1)).Nodup := by
        have hperm := ((hinsert.append_right rest).map (·.1)).nodup_iff
        rw [hperm, List.cons_append, List.map_cons, List.nodup_cons, List.map_append,
          List.mem_append, not_or]
        exact ⟨⟨hfresh, hrest⟩, hnodup⟩
      rw [normalizeMembers]
      calc
        List.Perm (normalizeMembers (insertMember k v.normalize sorted) rest)
            (insertMember k v.normalize sorted ++ rest.map normalizeMember) := ih hkeys
        List.Perm _ ((k, v.normalize) :: (sorted ++ rest.map normalizeMember)) :=
            hinsert.append_right _
        List.Perm _ (sorted ++ ((k, v) :: rest).map normalizeMember) := List.perm_middle.symm

theorem perm_normalizeMembers_nil (h : (members.map (·.1)).Nodup) :
    (normalizeMembers [] members).Perm (members.map normalizeMember) :=
  perm_normalizeMembers h

/-- Sorted members are decided by what they are. -/
theorem Sorted.eq_of_perm (h : Sorted members) (h' : Sorted members')
    (hperm : members.Perm members') : members = members' := by
  refine List.Perm.eq_of_pairwise ?_ h h' hperm
  intro m n _ _ hmn hnm
  exact absurd hnm (String.lt_asymm hmn)

theorem normalizeMembers_eq_of_perm (h : (members.map (·.1)).Nodup)
    (hperm : (members.map normalizeMember).Perm (members'.map normalizeMember)) :
    normalizeMembers [] members = normalizeMembers [] members' := by
  have h' : (members'.map (·.1)).Nodup := by
    rw [← map_fst_normalizeMember, (hperm.map (·.1)).symm.nodup_iff, map_fst_normalizeMember]
    exact h
  refine (Sorted.normalizeMembers List.Pairwise.nil _).eq_of_perm
    (Sorted.normalizeMembers List.Pairwise.nil _) ?_
  exact ((perm_normalizeMembers_nil h).trans hperm).trans (perm_normalizeMembers_nil h').symm

/-- A look-up among members with distinct keys does not depend on their order. -/
theorem lookup_eq_map_normalize (h : (members.map (·.1)).Nodup)
    (hperm : members'.Perm (members.map normalizeMember)) (key : String) :
    members'.lookup key = (members.lookup key).map normalize := by
  have h' : (members'.map (·.1)).Nodup := by
    rw [(hperm.map (·.1)).nodup_iff, map_fst_normalizeMember]
    exact h
  refine Option.ext fun value => ?_
  rw [lookup_eq_some_iff_mem h', hperm.mem_iff, List.mem_map, Option.map_eq_some_iff]
  constructor
  · rintro ⟨⟨k, v⟩, hmem, heq⟩
    cases heq
    exact ⟨v, (lookup_eq_some_iff_mem h).mpr hmem, rfl⟩
  · rintro ⟨v, hv, rfl⟩
    exact ⟨(key, v), (lookup_eq_some_iff_mem h).mp hv, rfl⟩

end Permutation

/-- Reordering keeps keys distinct and does not change the value. -/
theorem Reordered.normalize_eq {j k : Json} (h : Reordered j k) (hj : j.HasDistinctKeys) :
    k.HasDistinctKeys ∧ j.normalize = k.normalize := by
  induction h with
  | refl j => exact ⟨hj, rfl⟩
  | trans first second ih ih' =>
      obtain ⟨hmiddle, heq⟩ := ih hj
      obtain ⟨hlast, heq'⟩ := ih' hmiddle
      exact ⟨hlast, heq.trans heq'⟩
  | object moved =>
      cases hj with
      | object distinct members =>
          refine ⟨.object ((moved.map (·.1)).nodup_iff.mp distinct) fun m hm =>
            members m (moved.mem_iff.mpr hm), ?_⟩
          exact congrArg Json.object (normalizeMembers_eq_of_perm distinct (moved.map _))
  | element inside ih =>
      cases hj with
      | array elements =>
          obtain ⟨hfront, hrest⟩ := List.forall_mem_append.mp elements
          obtain ⟨hj, hback⟩ := List.forall_mem_cons.mp hrest
          obtain ⟨hk, heq⟩ := ih hj
          refine ⟨.array ?_, ?_⟩
          · exact List.forall_mem_append.mpr ⟨hfront, List.forall_mem_cons.mpr ⟨hk, hback⟩⟩
          · simp only [normalize, normalizeElements_eq_map, List.map_append, List.map_cons, heq]
  | member inside ih =>
      cases hj with
      | object distinct members =>
          obtain ⟨hfront, hrest⟩ := List.forall_mem_append.mp members
          obtain ⟨hj, hback⟩ := List.forall_mem_cons.mp hrest
          obtain ⟨hk, heq⟩ := ih hj
          refine ⟨.object (by simpa using distinct) ?_, ?_⟩
          · exact List.forall_mem_append.mpr ⟨hfront, List.forall_mem_cons.mpr ⟨hk, hback⟩⟩
          · refine congrArg Json.object (normalizeMembers_eq_of_perm distinct ?_)
            simp only [List.map_append, List.map_cons, normalizeMember, heq]
            exact List.Perm.refl _

end FilterQuery.Json
