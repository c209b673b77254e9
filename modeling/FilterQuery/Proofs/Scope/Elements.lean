import FilterQuery.Scope
import FilterQuery.Proofs.Outcome

/-!
# What a scope collects

A scope receives calls one after the other and keeps the first problem. The same result is given by
a function on the calls alone: every call has an element, or none, or a problem, and a scope
collects the elements. `finish_receiveAll` states this for a finished scope, so that nothing behind
it has to look at a scope that is still open.
-/

namespace FilterQuery

namespace Call

mutual

/-- What a call adds to its scope; a nested scope that collected nothing adds nothing. -/
def element (s : Schema) : Call → Except Error (Option (Connective × Condition))
  | predicate connective column p => (p.condition column).map fun c => some (connective, c)
  | nested connective calls =>
    (elements s calls).map fun chain => (Scope.fold s chain).map fun c => (connective, c)

/-- What calls add to their scope. -/
def elements (s : Schema) : List Call → Except Error (List (Connective × Condition))
  | [] => .ok []
  | call :: rest => do
    let head ← element s call
    let tail ← elements s rest
    return head.toList ++ tail

end

/-- Calls in two pieces collect the one after the other. -/
theorem elements_append (s : Schema) (cs ds : List Call) :
    elements s (cs ++ ds) = do
      let front ← elements s cs
      let back ← elements s ds
      return front ++ back := by
  induction cs with
  | nil =>
      rw [List.nil_append, elements]
      cases elements s ds with
      | error e => rfl
      | ok back => rfl
  | cons c cs ih =>
      rw [List.cons_append, elements, elements, ih]
      cases element s c with
      | error e => rfl
      | ok head =>
          cases elements s cs with
          | error e => rfl
          | ok front =>
              cases elements s ds with
              | error e => rfl
              | ok back => exact congrArg _ (List.append_assoc _ _ _).symm

section Invariant

variable {s : Schema} {P : Condition → Prop}

mutual

theorem of_element (hpredicate : ∀ column p c, Predicate.condition column p = .ok c → P c)
    (hfold : ∀ chain c, (∀ p ∈ chain, P p.2) → Scope.fold s chain = some c → P c) :
    (call : Call) → {p : Connective × Condition} → element s call = .ok (some p) → P p.2
  | .predicate connective column q, p, h => by
      obtain ⟨c, hc, hp⟩ := Outcome.map_eq_ok_iff.mp h
      cases hp
      exact hpredicate column q c hc
  | .nested connective calls, p, h => by
      obtain ⟨chain, hchain, hp⟩ := Outcome.map_eq_ok_iff.mp h
      obtain ⟨c, hc, rfl⟩ := Option.map_eq_some_iff.mp hp
      exact hfold chain c (of_elements hpredicate hfold calls hchain) hc

/-- What holds of the condition of every predicate, and of a closed scope when it holds of what the
scope collected, holds of everything that calls add, however deep they are. -/
theorem of_elements (hpredicate : ∀ column p c, Predicate.condition column p = .ok c → P c)
    (hfold : ∀ chain c, (∀ p ∈ chain, P p.2) → Scope.fold s chain = some c → P c) :
    (calls : List Call) → {chain : List (Connective × Condition)} →
    elements s calls = .ok chain → ∀ p ∈ chain, P p.2
  | [], chain, h => by
      cases h
      simp
  | call :: rest, chain, h => by
      obtain ⟨head, hhead, h⟩ := Outcome.bind_eq_ok_iff.mp h
      obtain ⟨tail, htail, h⟩ := Outcome.bind_eq_ok_iff.mp h
      cases h
      intro p hp
      rcases List.mem_append.mp hp with hp | hp
      · rw [Option.mem_toList] at hp
        exact of_element hpredicate hfold call (by rw [hhead, hp])
      · exact of_elements hpredicate hfold rest htail p hp

end

end Invariant

end Call

namespace Scope

open Call

variable {schema : Schema}

theorem receive_of_failure {s : Scope} {e : Error} (h : s.failure = some e) (call : Call) :
    receive schema s call = s := by
  cases call <;> simp [receive, h]

theorem receiveAll_of_failure {s : Scope} {e : Error} (h : s.failure = some e) (calls : List Call) :
    receiveAll schema s calls = s := by
  induction calls with
  | nil => rfl
  | cons call rest ih => rw [receiveAll, receive_of_failure h, ih]

/-- Where a scope stands after a call, or after several: it has the elements in addition, or the
problem. -/
def Reaches (s : Scope) (chain : Except Error (List (Connective × Condition))) (s' : Scope) :
    Prop :=
  match chain with
  | .ok added => s' = { s with chain := s.chain ++ added }
  | .error e => s'.failure = some e

mutual

theorem reaches_receive : (call : Call) → {s : Scope} → s.failure = none →
    Reaches s ((element schema call).map Option.toList) (receive schema s call)
  | .predicate connective column p, s, h => by
      simp only [receive, element, h, Option.isSome_none, Bool.false_eq_true, if_false]
      cases p.condition column with
      | error e => rfl
      | ok c => rfl
  | .nested connective calls, s, h => by
      have inner : Reaches {} (elements schema calls) (receiveAll schema {} calls) :=
        reaches_receiveAll calls rfl
      simp only [receive, element, h, Option.isSome_none, Bool.false_eq_true, if_false]
      cases he : elements schema calls with
      | error e =>
          rw [he] at inner
          have hfail : (receiveAll schema {} calls).failure = some e := inner
          rw [hfail]
          rfl
      | ok chain =>
          rw [he] at inner
          have hchain : receiveAll schema {} calls = { chain } := by
            simpa [Reaches] using inner
          rw [hchain]
          change Reaches s (.ok ((fold schema chain).map fun c => (connective, c)).toList)
            (match fold schema chain with
              | some c => s.push connective c
              | none => s)
          cases fold schema chain with
          | none => simp [Reaches]
          | some c => rfl

theorem reaches_receiveAll : (calls : List Call) → {s : Scope} → s.failure = none →
    Reaches s (elements schema calls) (receiveAll schema s calls)
  | [], s, _ => by simp [Reaches, elements, receiveAll]
  | call :: rest, s, h => by
      have first := reaches_receive call h
      rw [elements, receiveAll]
      cases he : element schema call with
      | error e =>
          rw [he] at first
          have hfail : (receive schema s call).failure = some e := first
          rw [receiveAll_of_failure hfail]
          exact hfail
      | ok head =>
          rw [he] at first
          have hs : receive schema s call = { s with chain := s.chain ++ head.toList } := first
          have others : Reaches { s with chain := s.chain ++ head.toList } (elements schema rest)
              (receiveAll schema { s with chain := s.chain ++ head.toList } rest) :=
            reaches_receiveAll rest h
          rw [hs]
          cases ht : elements schema rest with
          | error e =>
              rw [ht] at others
              exact others
          | ok tail =>
              rw [ht] at others
              have htail : receiveAll schema { s with chain := s.chain ++ head.toList } rest =
                  { s with chain := s.chain ++ head.toList ++ tail } := others
              rw [htail]
              exact congrArg (fun chain => { s with chain }) (List.append_assoc _ _ _)

end

/-- A finished scope is the fold of the elements of its calls, or their first problem. -/
theorem finish_receiveAll (schema : Schema) (calls : List Call) :
    (receiveAll schema {} calls).finish schema =
      (elements schema calls).map fun chain => (fold schema chain).getD (.all []) := by
  have h : Reaches {} (elements schema calls) (receiveAll schema {} calls) :=
    reaches_receiveAll calls rfl
  cases he : elements schema calls with
  | error e =>
      rw [he] at h
      have hfail : (receiveAll schema {} calls).failure = some e := h
      rw [finish, hfail]
      rfl
  | ok chain =>
      rw [he] at h
      have hchain : receiveAll schema {} calls = { chain } := by
        simpa [Reaches] using h
      rw [finish, hchain]
      rfl

end Scope

/-- Compiling a clause collects the elements of its calls. -/
theorem Clause.compile_eq (schema : Schema) (c : Clause) :
    c.compile schema =
      (Call.elements schema c.build).map fun chain =>
        (Scope.fold schema chain).getD (.all []) :=
  Scope.finish_receiveAll schema c.build

end FilterQuery
