import IbanWatch.Proofs.Iban.Layout
import IbanWatch.Proofs.Text.Numerals
import Mathlib.Data.Nat.ModEq
import Mathlib.Tactic.NormNum.GCD

/-!
# The weight of a stretch

A letter is spelled by two digits, so how far a character counts in the number of an identifier
depends on how many letters stand behind it.  But whatever stands there, a stretch of characters is
moved up by a power of ten, and a power of ten is invertible modulo 97.  So when a stretch is
replaced by another one that spells as many digits, the remainder of the whole number changes
exactly when the remainder of the stretch by itself does.

That the first four characters go to the end makes no difference, as long as the stretch lies on one
side of the cut.

## Main definitions

* `worth`, `width` — the number that a row of letters and digits spells, and its number of digits.

## Main results

* `worth_append` — the number of a row in two parts.
* `symbolValue_inj` — letters and digits are known from their values.
* `worth_modEq_iff`, `number_modEq_iff` — **a stretch shows in the remainder as it does by itself**.
-/

namespace IbanWatch.Iban

open Text

/-! ### The number of a row -/

/-- The number that a row of letters and digits spells. -/
def worth (cs : List Char) : Nat := numeralValue 10 (spelled cs)

/-- How many digits a row of letters and digits spells. -/
def width (cs : List Char) : Nat := (spelled cs).length

theorem number_eq (n : List Char) : number n = worth (n.drop 4 ++ n.take 4) := rfl

theorem spelled_append (cs ds : List Char) : spelled (cs ++ ds) = spelled cs ++ spelled ds :=
  List.flatMap_append

@[simp] theorem width_append (cs ds : List Char) : width (cs ++ ds) = width cs + width ds := by
  rw [width, spelled_append, List.length_append, width, width]

/-- A row in two parts: the front part is moved up by the digits of the other. -/
theorem worth_append (cs ds : List Char) :
    worth (cs ++ ds) = worth cs * 10 ^ width ds + worth ds := by
  rw [worth, spelled_append, numeralValue_append, worth, worth, width]

@[simp] theorem worth_singleton (c : Char) : worth [c] = symbolValue c := by
  rw [worth, spelled, List.flatMap_singleton, numeralValue_toDigits (by decide) (by decide)]

theorem worth_pair (c d : Char) :
    worth [c, d] = symbolValue c * 10 ^ width [d] + symbolValue d := by
  rw [← worth_singleton c, ← worth_singleton d]
  exact worth_append [c] [d]

/-! ### Letters and digits -/

/-- A digit is no letter. -/
theorem not_isCapital_of_isDigit {c : Char} (h : isDigit c = true) : ¬ isCapital c = true := by
  rw [isCapital_iff]
  rw [isDigit_iff] at h
  omega

theorem isCapital_of_isDigit {c : Char} (h : isDigit c = true) : isCapital c = false :=
  Bool.eq_false_iff.mpr (not_isCapital_of_isDigit h)

theorem isDigit_of_isCapital {c : Char} (h : isCapital c = true) : isDigit c = false := by
  rw [Bool.eq_false_iff]
  intro hdigit
  exact not_isCapital_of_isDigit hdigit h

/-- The values of the digits. -/
theorem symbolValue_of_isDigit {c : Char} (h : isDigit c = true) :
    symbolValue c + 48 = c.toNat ∧ symbolValue c ≤ 9 := by
  rw [symbolValue, if_pos h]
  rw [isDigit_iff] at h
  omega

/-- The values of the letters, which go on behind those of the digits. -/
theorem symbolValue_of_isCapital {c : Char} (h : isCapital c = true) :
    symbolValue c + 55 = c.toNat ∧ 10 ≤ symbolValue c ∧ symbolValue c ≤ 35 := by
  rw [symbolValue, isDigit_of_isCapital h, if_neg Bool.false_ne_true]
  rw [isCapital_iff] at h
  omega

theorem width_of_isDigit {c : Char} (h : isDigit c = true) : width [c] = 1 := by
  obtain ⟨-, hle⟩ := symbolValue_of_isDigit h
  rw [width, spelled, List.flatMap_singleton, Nat.toDigits_of_lt_base (by omega)]
  rfl

theorem width_of_isCapital {c : Char} (h : isCapital c = true) : width [c] = 2 := by
  obtain ⟨-, hlow, hhigh⟩ := symbolValue_of_isCapital h
  rw [width, spelled, List.flatMap_singleton, Nat.toDigits_eq_if (by decide), if_neg (by omega),
    Nat.toDigits_of_lt_base (by omega)]
  rfl

theorem symbolValue_le {c : Char} (h : IsSymbol c) : symbolValue c ≤ 35 := by
  rcases h with hdigit | hcapital
  · obtain ⟨-, hle⟩ := symbolValue_of_isDigit hdigit
    omega
  · exact (symbolValue_of_isCapital hcapital).2.2

/-- **Letters and digits are known from their values.** -/
theorem symbolValue_inj {c d : Char} (hc : IsSymbol c) (hd : IsSymbol d)
    (h : symbolValue c = symbolValue d) : c = d := by
  rw [← Char.toNat_inj]
  rcases hc with hc | hc
  · have hcv := symbolValue_of_isDigit hc
    rcases hd with hd | hd
    · have hdv := symbolValue_of_isDigit hd
      omega
    · have hdv := symbolValue_of_isCapital hd
      omega
  · have hcv := symbolValue_of_isCapital hc
    rcases hd with hd | hd
    · have hdv := symbolValue_of_isDigit hd
      omega
    · have hdv := symbolValue_of_isCapital hd
      omega

/-! ### Stretches -/

/-- No power of ten has a factor in common with 97. -/
theorem gcd_pow_ten (k : Nat) : Nat.gcd 97 (10 ^ k) = 1 :=
  Nat.Coprime.pow_right k (by norm_num)

/-- **A stretch shows in the remainder as it does by itself**: what stands behind it only moves it
up by a power of ten, and what stands in front is moved up alike. -/
theorem worth_modEq_iff (front rest : List Char) {m m' : List Char} (hwidth : width m = width m') :
    worth (front ++ (m ++ rest)) ≡ worth (front ++ (m' ++ rest)) [MOD 97]
      ↔ worth m ≡ worth m' [MOD 97] := by
  have hsplit : ∀ k, worth (front ++ (k ++ rest))
      = worth front * 10 ^ (width k + width rest) + (worth k * 10 ^ width rest + worth rest) := by
    intro k
    rw [worth_append, worth_append, width_append]
  rw [hsplit, hsplit, hwidth]
  constructor
  · intro h
    have hmiddle : worth m * 10 ^ width rest ≡ worth m' * 10 ^ width rest [MOD 97] :=
      (h.add_left_cancel' _).add_right_cancel' _
    exact hmiddle.cancel_right_of_coprime (gcd_pow_ten _)
  · intro h
    exact ((h.mul_right _).add_right _).add_left _

/-- A stretch on one side of the cut is still one stretch when the first four characters have gone
to the end, and what is around it does not depend on it. -/
theorem exists_rotated (front rest : List Char) {k : Nat}
    (hcut : 4 ≤ front.length ∨ front.length + k ≤ 4) :
    ∃ before behind, ∀ m : List Char, m.length = k →
      (front ++ (m ++ rest)).drop 4 ++ (front ++ (m ++ rest)).take 4 = before ++ (m ++ behind) := by
  rcases hcut with hbehind | hbefore
  · refine ⟨front.drop 4, rest ++ front.take 4, ?_⟩
    intro m _
    rw [List.drop_append_of_le_length hbehind, List.take_append_of_le_length hbehind]
    simp
  · refine ⟨rest.drop (4 - (front.length + k)) ++ front, rest.take (4 - (front.length + k)), ?_⟩
    intro m hm
    have hlength : (front ++ m).length = front.length + k := by rw [List.length_append, hm]
    rw [← List.append_assoc front, List.drop_append, List.take_append, hlength,
      List.drop_of_length_le (by omega), List.take_of_length_le (by omega)]
    simp

/-- **A stretch of an identifier shows in the remainder of its number as it does by itself**, as
long as it lies on one side of the cut. -/
theorem number_modEq_iff (front m m' rest : List Char) (hlength : m.length = m'.length)
    (hwidth : width m = width m')
    (hcut : 4 ≤ front.length ∨ front.length + m.length ≤ 4) :
    number (front ++ (m ++ rest)) ≡ number (front ++ (m' ++ rest)) [MOD 97]
      ↔ worth m ≡ worth m' [MOD 97] := by
  obtain ⟨before, behind, hrotated⟩ := exists_rotated front rest hcut
  rw [number_eq, number_eq, hrotated m rfl, hrotated m' hlength.symm]
  exact worth_modEq_iff before behind hwidth

end IbanWatch.Iban
