import ParserCombinators.Text.Basic

/-!
# Integers of 64 bits

Numbers are unbounded integers together with the test that they fit into 64 bits with a sign.  A
run of ASCII digits stands for its decimal value, however long it is (`ofDigits`).  In 64 bits that
value is built up digit by digit, and given up at the first step that does not fit (`ofDigits?`).
-/

namespace ParserCombinators.Integer

/-- The least integer of 64 bits. -/
def least : Int := -9223372036854775808

/-- The greatest integer of 64 bits. -/
def greatest : Int := 9223372036854775807

/-- The integer can be written in 64 bits with a sign. -/
def Fits (n : Int) : Prop := least ≤ n ∧ n ≤ greatest

instance (n : Int) : Decidable (Fits n) := inferInstanceAs (Decidable (_ ∧ _))

/-- The number of a decimal digit. -/
def digitValue (c : Char) : Nat := c.toNat - '0'.toNat

/-- The decimal value of a run of digits; leading zeros do not count. -/
def ofDigits (digits : Text) : Nat := digits.foldl (fun value c => 10 * value + digitValue c) 0

@[simp] theorem ofDigits_nil : ofDigits [] = 0 := rfl

theorem ofDigits_concat (digits : Text) (c : Char) :
    ofDigits (digits ++ [c]) = 10 * ofDigits digits + digitValue c := by
  simp [ofDigits, List.foldl_append]

/-- The number with one more digit at its end.  The tenfold has to fit before the digit is added, and the
sum has to fit as well. -/
def appendDigit? (value : Int) (c : Char) : Option Int :=
  if Fits (10 * value) ∧ Fits (10 * value + digitValue c) then some (10 * value + digitValue c)
  else none

/-- The decimal value of a run of digits, computed in 64 bits from the first digit to the last. -/
def ofDigits? (digits : Text) : Option Int := digits.foldlM appendDigit? 0

theorem ofDigits?_concat (digits : Text) (c : Char) :
    ofDigits? (digits ++ [c]) = (ofDigits? digits).bind (appendDigit? · c) := by
  simp [ofDigits?, List.foldlM_append]

end ParserCombinators.Integer
