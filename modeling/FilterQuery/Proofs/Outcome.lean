import FilterQuery.Error

/-!
# Steps that may fail

A computation in steps succeeds when every step does, and otherwise has the problem of the first
step that does not. These lemmas take such a computation apart.
-/

namespace FilterQuery.Outcome

variable {α β γ ε : Type}

/-- Two steps succeed when the first does and the second does with its result. -/
theorem bind_eq_ok_iff {x : Except ε α} {f : α → Except ε β} {b : β} :
    x >>= f = .ok b ↔ ∃ a, x = .ok a ∧ f a = .ok b := by
  cases x with
  | error e =>
      constructor
      · intro h
        cases h
      · rintro ⟨a, ha, -⟩
        cases ha
  | ok a =>
      constructor
      · intro h
        exact ⟨a, rfl, h⟩
      · rintro ⟨a', ha, h⟩
        cases ha
        exact h

theorem map_eq_ok_iff {x : Except ε α} {f : α → β} {b : β} :
    x.map f = .ok b ↔ ∃ a, x = .ok a ∧ f a = b := by
  cases x with
  | error e =>
      constructor
      · intro h
        cases h
      · rintro ⟨a, ha, -⟩
        cases ha
  | ok a =>
      constructor
      · intro h
        exact ⟨a, rfl, Except.ok.inj h⟩
      · rintro ⟨a', ha, rfl⟩
        cases ha
        rfl

theorem mapError_eq_ok_iff {δ : Type} {x : Except ε α} {f : ε → δ} {a : α} :
    x.mapError f = .ok a ↔ x = .ok a := by
  cases x with
  | error e =>
      constructor
      · intro h
        cases h
      · intro h
        cases h
  | ok a' =>
      constructor
      · intro h
        rw [Except.ok.inj h]
      · rintro ⟨⟩
        rfl

theorem mapError_eq_error_iff {δ : Type} {x : Except ε α} {f : ε → δ} {d : δ} :
    x.mapError f = .error d ↔ ∃ e, x = .error e ∧ f e = d := by
  cases x with
  | error e =>
      constructor
      · intro h
        exact ⟨e, rfl, Except.error.inj h⟩
      · rintro ⟨e', he, rfl⟩
        cases he
        rfl
  | ok a =>
      constructor
      · intro h
        cases h
      · rintro ⟨e, he, -⟩
        cases he

theorem discard_eq_ok_iff {x : Except ε α} : discard x = .ok () ↔ ∃ a, x = .ok a := by
  cases x with
  | error e =>
      constructor
      · intro h
        cases h
      · rintro ⟨a, ha⟩
        cases ha
  | ok a => exact ⟨fun _ => ⟨a, rfl⟩, fun _ => rfl⟩

/-- A check of every element succeeds when each check does. -/
theorem forM_eq_ok_iff {xs : List α} {check : α → Except ε Unit} :
    xs.forM check = .ok () ↔ ∀ x ∈ xs, check x = .ok () := by
  induction xs with
  | nil => exact ⟨fun _ x hx => absurd hx (by simp), fun _ => rfl⟩
  | cons x xs ih =>
      change (check x >>= fun _ => xs.forM check) = _ ↔ _
      rw [bind_eq_ok_iff]
      constructor
      · rintro ⟨a, hx, hxs⟩
        simpa using ⟨hx, ih.mp hxs⟩
      · intro h
        exact ⟨(), h x (by simp), ih.mpr fun y hy => h y (by simp [hy])⟩

/-- The problem of a computation that fails. -/
def problem? : Except ε α → Option ε
  | .error e => some e
  | .ok _ => none

theorem problem?_eq_some_iff {x : Except ε α} {e : ε} : problem? x = some e ↔ x = .error e := by
  cases x with
  | error e' => simp [problem?]
  | ok a => simp [problem?]

theorem problem?_eq_none_iff {x : Except ε α} : problem? x = none ↔ ∃ a, x = .ok a := by
  cases x with
  | error e => simp [problem?]
  | ok a => simp [problem?]

@[simp] theorem problem?_map (f : α → β) (x : Except ε α) : problem? (x.map f) = problem? x := by
  cases x <;> rfl

theorem map_eq_error_iff {x : Except ε α} {f : α → β} {e : ε} :
    x.map f = .error e ↔ x = .error e := by
  rw [← problem?_eq_some_iff, problem?_map, problem?_eq_some_iff]

/-- The next step is reached only if the one before it succeeds; its problem does not depend on what
that one gives. -/
theorem problem?_bind {x : Except ε α} {f : α → Except ε β} {problem : Option ε}
    (h : ∀ a, problem? (f a) = problem) : problem? (x >>= f) = (problem? x).or problem := by
  cases x with
  | error e => rfl
  | ok a => exact h a

/-- Of two steps in a row, the second is reached only if the first succeeds. -/
theorem problem?_both (x : Except ε α) (y : Except ε β) (f : α → β → γ) :
    problem? (do
      let a ← x
      let b ← y
      return f a b) = (problem? x).or (problem? y) := by
  cases x with
  | error e => rfl
  | ok a => cases y <;> rfl

end FilterQuery.Outcome
