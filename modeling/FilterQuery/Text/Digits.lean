/-!
# Decimal digits

Reading and writing natural numbers in decimal notation. Only the ten ASCII digits count.
-/

namespace FilterQuery.Text

/-- The number that an ASCII digit stands for. -/
def digitValue (c : Char) : Nat := c.toNat - '0'.toNat

/-- The number written by a list of decimal digits, most significant first. -/
def decimalValue (digits : List Char) : Nat :=
  digits.foldl (fun n c => 10 * n + digitValue c) 0

@[simp] theorem decimalValue_nil : decimalValue [] = 0 := rfl

@[simp] theorem decimalValue_append_singleton (ds : List Char) (c : Char) :
    decimalValue (ds ++ [c]) = 10 * decimalValue ds + digitValue c := by
  simp [decimalValue, List.foldl_append]

/-- The digits of a natural number, most significant first. -/
def decimalDigits (n : Nat) : List Char := Nat.toDigits 10 n

/-- A natural number in decimal notation. -/
def ofNat (n : Nat) : String := String.ofList (decimalDigits n)

/-- An integer in decimal notation, with a sign only when it is negative. -/
def ofInt : Int → String
  | .ofNat n => ofNat n
  | .negSucc n => "-" ++ ofNat (n + 1)

/-- Splits a text after its leading decimal digits. -/
def spanDigits (cs : List Char) : List Char × List Char :=
  (cs.takeWhile Char.isDigit, cs.dropWhile Char.isDigit)

@[simp] theorem spanDigits_append (cs : List Char) :
    (spanDigits cs).1 ++ (spanDigits cs).2 = cs := by
  simp [spanDigits]

theorem isDigit_of_mem_spanDigits {c : Char} {cs : List Char} (h : c ∈ (spanDigits cs).1) :
    c.isDigit = true := by
  simp only [spanDigits] at h
  exact List.all_eq_true.mp (List.all_takeWhile (p := Char.isDigit) (l := cs)) c h

end FilterQuery.Text
