/-!
# Numerals

## Main definitions

* `digitValue` — the value of a digit.
* `numeralValue` — the number that a row of digits spells.
-/

namespace IbanWatch.Text

/-- The value of a digit in any base up to sixteen. -/
def digitValue (c : Char) : Nat :=
  if c ≤ '9' then c.toNat - 48 else if c ≤ 'F' then c.toNat - 55 else c.toNat - 87

/-- The number that the digits spell. -/
def numeralValue (base : Nat) (digits : List Char) : Nat :=
  digits.foldl (fun n c => n * base + digitValue c) 0

example : numeralValue 16 ['f', 'F', '0'] = 4080 := by decide

end IbanWatch.Text
