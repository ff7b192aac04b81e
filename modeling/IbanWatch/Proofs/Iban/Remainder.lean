import IbanWatch.Iban.Check
import Mathlib.Data.Nat.ModEq
import Mathlib.Tactic.Ring

/-!
# Remainders taken in chunks

A row of decimal digits spells a natural number of any size.  Its remainder modulo 97 is taken in
words of 64 bits: the running value is cut back below 97 before a chunk of digits begins, so within
the chunk it stays below `97 * 10 ^ size`, and as long as that fits a word nothing wraps around.
The chunks are counted down from wherever the fold stands, so the induction is on the digits and
need not know where a chunk begins; that the last chunk may be short makes no difference then.

## Main definitions

* `valueFrom`, `value` — the number that a row of digits spells, in the natural numbers.
* `Within` — the running value has room for the digits that are left in its chunk.

## Main results

* `toNat_step` — one more digit, without wrapping around.
* `toNat_foldInChunks` — what the fold gives, from wherever it stands.
* `toNat_remainder97` — **the remainder is that of the whole number**.
-/

namespace IbanWatch.Iban

/-! ### The number that digits spell -/

/-- The number that is spelled when these digits are written behind the numeral of `n`. -/
def valueFrom (n : Nat) (digits : List UInt8) : Nat :=
  digits.foldl (fun n d => n * 10 + d.toNat) n

/-- The number that the digits spell. -/
def value (digits : List UInt8) : Nat := valueFrom 0 digits

@[simp] theorem valueFrom_nil (n : Nat) : valueFrom n [] = n := rfl

@[simp] theorem valueFrom_cons (n : Nat) (d : UInt8) (ds : List UInt8) :
    valueFrom n (d :: ds) = valueFrom (n * 10 + d.toNat) ds := rfl

/-- Digits go on from a number by their own remainders and the remainder of the number. -/
theorem valueFrom_modEq {m n : Nat} (h : m ≡ n [MOD 97]) (ds : List UInt8) :
    valueFrom m ds ≡ valueFrom n ds [MOD 97] := by
  induction ds generalizing m n with
  | nil => exact h
  | cons d ds ih => exact ih ((h.mul_right 10).add_right d.toNat)

/-! ### The running value -/

/-- The running value has room for the digits that are left in its chunk: it is a remainder with
some of the digits of a chunk behind it. -/
def Within (size left : Nat) (acc : UInt64) : Prop := acc.toNat < 97 * 10 ^ (size - left)

theorem within_zero (size : Nat) : Within size size 0 := by
  rw [Within, Nat.sub_self]
  decide

/-- What is cut back begins a chunk. -/
theorem within_mod (size : Nat) (acc : UInt64) : Within size size (acc % 97) := by
  rw [Within, Nat.sub_self, UInt64.toNat_mod]
  exact Nat.mod_lt _ (by decide)

/-- **One more digit** is taken without wrapping around, if a chunk fits a word. -/
theorem toNat_step {size left : Nat} {acc : UInt64} {d : UInt8}
    (hsize : 97 * 10 ^ size ≤ 2 ^ 64) (hleft : left + 1 ≤ size) (hd : d.toNat ≤ 9)
    (h : Within size (left + 1) acc) :
    (acc * 10 + d.toUInt64).toNat = acc.toNat * 10 + d.toNat
      ∧ Within size left (acc * 10 + d.toUInt64) := by
  have hpow : 97 * 10 ^ (size - left) = 97 * 10 ^ (size - (left + 1)) * 10 := by
    rw [show size - left = size - (left + 1) + 1 by omega, Nat.pow_succ]
    ring
  have hle : 97 * 10 ^ (size - left) ≤ 97 * 10 ^ size :=
    Nat.mul_le_mul_left _ (Nat.pow_le_pow_right (by decide) (by omega))
  have hlt : acc.toNat * 10 + d.toNat < 97 * 10 ^ (size - left) := by
    rw [Within] at h
    omega
  have hword : (acc * 10 + d.toUInt64).toNat = acc.toNat * 10 + d.toNat := by
    rw [UInt64.toNat_add, UInt64.toNat_mul, UInt8.toNat_toUInt64,
      show (10 : UInt64).toNat = 10 from rfl]
    omega
  refine ⟨hword, ?_⟩
  rw [Within, hword]
  exact hlt

/-- **What the fold gives**, from wherever it stands in a chunk: the remainder of the number that
goes on from the running value. -/
theorem toNat_foldInChunks {size : Nat} (hpos : 0 < size) (hsize : 97 * 10 ^ size ≤ 2 ^ 64)
    {ds : List UInt8} (hds : ∀ d ∈ ds, d.toNat ≤ 9) {left : Nat} (hleft : left ≤ size)
    {acc : UInt64} (h : Within size left acc) :
    (foldInChunks size left acc ds).toNat = valueFrom acc.toNat ds % 97 := by
  induction ds generalizing left acc with
  | nil => exact UInt64.toNat_mod _ _
  | cons d ds ih =>
    rw [List.forall_mem_cons] at hds
    obtain ⟨hd, hds⟩ := hds
    cases left with
    | zero =>
      -- A chunk is over: the running value is cut back, and `d` is the first digit of the next.
      have hmod := within_mod size acc
      obtain ⟨k, rfl⟩ : ∃ k, size = k + 1 := ⟨size - 1, by omega⟩
      obtain ⟨hword, hwithin⟩ := toNat_step hsize (Nat.le_refl _) hd hmod
      have hcut : (acc % 97).toNat ≡ acc.toNat [MOD 97] := by
        rw [UInt64.toNat_mod]
        exact Nat.mod_modEq _ _
      calc (foldInChunks (k + 1) 0 acc (d :: ds)).toNat
          = valueFrom (acc % 97 * 10 + d.toUInt64).toNat ds % 97 := ih hds (by omega) hwithin
        _ = valueFrom ((acc % 97).toNat * 10 + d.toNat) ds % 97 := by rw [hword]
        _ = valueFrom (acc.toNat * 10 + d.toNat) ds % 97 :=
            valueFrom_modEq ((hcut.mul_right 10).add_right _) ds
    | succ left =>
      obtain ⟨hword, hwithin⟩ := toNat_step hsize hleft hd h
      rw [valueFrom_cons, ← hword]
      exact ih hds (by omega) hwithin

/-- The remainder is that of the number, for every size of chunk that fits a word. -/
theorem toNat_remainderInChunks {size : Nat} (hpos : 0 < size) (hsize : 97 * 10 ^ size ≤ 2 ^ 64)
    {ds : List UInt8} (hds : ∀ d ∈ ds, d.toNat ≤ 9) :
    (remainderInChunks size ds).toNat = value ds % 97 :=
  toNat_foldInChunks hpos hsize hds (Nat.le_refl _) (within_zero size)

/-- **The remainder is that of the whole number** that the digits spell. -/
theorem toNat_remainder97 {ds : List UInt8} (hds : ∀ d ∈ ds, d.toNat ≤ 9) :
    (remainder97 ds).toNat = value ds % 97 :=
  toNat_remainderInChunks (by decide) (by decide) hds

end IbanWatch.Iban
