import IbanWatch.Text.Numeral
import Mathlib.Data.List.Induction
import Mathlib.Tactic.Ring

/-!
# Numerals in parts

A numeral that is written in two parts has the number of the front part, moved up by as many places
as the other part has, and the number of the other part.  The digits of a number spell it again.

## Main results

* `numeralValue_append` — the number of a numeral in two parts.
* `numeralValue_toDigits` — the digits of a number spell it.
-/

namespace IbanWatch.Text

/-- A numeral in two parts: the front part is moved up by the places of the other. -/
theorem numeralValue_append (base : Nat) (front rest : List Char) :
    numeralValue base (front ++ rest)
      = numeralValue base front * base ^ rest.length + numeralValue base rest := by
  induction rest using List.reverseRecOn with
  | nil => simp [numeralValue]
  | append_singleton rest c ih =>
    have hlast : ∀ cs,
        numeralValue base (cs ++ [c]) = numeralValue base cs * base + digitValue c := by
      intro cs
      rw [numeralValue, List.foldl_append]
      rfl
    rw [← List.append_assoc, hlast, hlast, ih, List.length_append, List.length_singleton,
      Nat.pow_succ]
    ring

theorem numeralValue_singleton (base : Nat) (c : Char) : numeralValue base [c] = digitValue c := by
  simp [numeralValue]

theorem digitValue_digitChar {d : Nat} (h : d < 16) : digitValue (Nat.digitChar d) = d := by
  have hall : ∀ d < 16, digitValue (Nat.digitChar d) = d := by decide
  exact hall d h

/-- **The digits of a number spell it.** -/
theorem numeralValue_toDigits {base : Nat} (hbase : 1 < base) (hle : base ≤ 16) (n : Nat) :
    numeralValue base (Nat.toDigits base n) = n := by
  induction n using Nat.strongRecOn with
  | ind n ih =>
    rw [Nat.toDigits_eq_if hbase]
    by_cases hn : n < base
    · rw [if_pos hn, numeralValue_singleton, digitValue_digitChar (by omega)]
    · have hmod : n % base < base := Nat.mod_lt n (by omega)
      have hrest := ih (n / base) (Nat.div_lt_self (by omega) hbase)
      rw [if_neg hn, numeralValue_append, hrest, numeralValue_singleton,
        digitValue_digitChar (by omega), List.length_singleton, Nat.pow_one, Nat.div_add_mod']

end IbanWatch.Text
