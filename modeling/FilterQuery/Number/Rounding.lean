/-!
# Rounding a quotient to the nearest natural number

A quotient half way between two naturals goes to the even one. Main statement: the answer is never
further than one half away (`two_mul_divNearest_le`, `le_two_mul_divNearest`).
-/

namespace FilterQuery.Number

/-- The natural number nearest to `num / den`; of two equally near ones the even one. -/
def divNearest (num den : Nat) : Nat :=
  let quotient := num / den
  let excess := 2 * (num % den)
  if excess < den then quotient
  else if den < excess then quotient + 1
  else quotient + quotient % 2

theorem divNearest_eq_or (num den : Nat) :
    divNearest num den = num / den ∨ divNearest num den = num / den + 1 := by
  unfold divNearest
  have := Nat.mod_two_eq_zero_or_one (num / den)
  grind

theorem two_mul_divNearest_le {num den : Nat} (h : 0 < den) :
    2 * (den * divNearest num den) ≤ 2 * num + den := by
  have hdiv := Nat.div_add_mod num den
  have hmod := Nat.mod_two_eq_zero_or_one (num / den)
  unfold divNearest
  simp only
  split
  · omega
  · split
    · rw [Nat.mul_add]; omega
    · rw [Nat.mul_add]
      rcases hmod with h0 | h1
      · rw [h0]; omega
      · rw [h1]; omega

theorem le_two_mul_divNearest {num den : Nat} (h : 0 < den) :
    2 * num ≤ 2 * (den * divNearest num den) + den := by
  have hdiv := Nat.div_add_mod num den
  have hlt := Nat.mod_lt num h
  have hmod := Nat.mod_two_eq_zero_or_one (num / den)
  unfold divNearest
  simp only
  split
  · omega
  · split
    · rw [Nat.mul_add]; omega
    · rw [Nat.mul_add]
      rcases hmod with h0 | h1
      · rw [h0]; omega
      · rw [h1]; omega

@[simp] theorem divNearest_one (n : Nat) : divNearest n 1 = n := by
  simp [divNearest, Nat.mod_one]

end FilterQuery.Number
