/-!
# Blank characters

The characters with the Unicode property White_Space, and cutting them off both ends of a text.
-/

namespace FilterQuery.Text

/-- A character is blank when it has the Unicode property White_Space. -/
def isBlank (c : Char) : Bool :=
  let n := c.toNat
  (0x09 ≤ n && n ≤ 0x0D) || n == 0x20 || n == 0x85 || n == 0xA0 || n == 0x1680 ||
    (0x2000 ≤ n && n ≤ 0x200A) || n == 0x2028 || n == 0x2029 || n == 0x202F || n == 0x205F ||
    n == 0x3000

/-- The text without its leading blanks. -/
def dropBlanks (cs : List Char) : List Char := cs.dropWhile isBlank

/-- The text without leading and trailing blanks. -/
def trim (cs : List Char) : List Char := (dropBlanks (dropBlanks cs).reverse).reverse

@[simp] theorem trim_nil : trim [] = [] := rfl

theorem dropBlanks_eq_self_iff {c : Char} {cs : List Char} :
    dropBlanks (c :: cs) = c :: cs ↔ isBlank c = false := by
  by_cases h : isBlank c
  · have hlen := (List.dropWhile_suffix isBlank (l := cs)).length_le
    simp only [dropBlanks, List.dropWhile_cons, h, if_true, Bool.true_eq_false, iff_false]
    intro he
    have := congrArg List.length he
    simp at this
    omega
  · simp [dropBlanks, h]

end FilterQuery.Text
