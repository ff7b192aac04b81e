import IbanWatch.Proofs.Iban.Remainder
import Mathlib.Data.List.Induction
import Mathlib.Data.Nat.Digits.Defs

/-!
# The fold chunk by chunk

The running value is cut back below 97 between chunks only.  Seen so, the fold is a fold over the
chunks of a fold over the digits of each: all chunks but the last are full, and the last may be
short.  Every value on the way is a remainder with the digits of its chunk behind it, exactly that
natural number, and with seven digits to a chunk it stays below a thousand million.

What comes out is the remainder of the number that all digits spell, whatever the size of the
chunks, as long as a remainder with a chunk behind it fits a word.

## Main definitions

* `chunksOf` — the digits in chunks of a size.
* `wordFrom`, `foldChunks` — the running value within a chunk, and from chunk to chunk.
* `FoldsWhole` — everything about the remainder of a row of digits.

## Main results

* `remainderInChunks_eq` — the fold is the nested fold over the chunks.
* `wordFrom_spec` — within a chunk nothing wraps around.
* `foldsWhole` — **the remainder is that of the whole number, for every size of chunk that fits**.
-/

namespace IbanWatch.Iban

/-! ### Chunks -/

/-- The digits in chunks of a size, where only the last may be shorter. -/
def chunksOf (size : Nat) (hpos : 0 < size) : List UInt8 → List (List UInt8)
  | [] => []
  | d :: ds => (d :: ds).take size :: chunksOf size hpos ((d :: ds).drop size)
termination_by ds => ds.length
decreasing_by
  rw [List.length_drop, List.length_cons]
  omega

/-- The running value after some digits of a chunk, from what it was before them. -/
def wordFrom (acc : UInt64) (digits : List UInt8) : UInt64 :=
  digits.foldl (fun acc d => acc * 10 + d.toUInt64) acc

/-- The remainder after some chunks, from what it was before them. -/
def foldChunks (remainder : UInt64) (chunks : List (List UInt8)) : UInt64 :=
  chunks.foldl (fun r chunk => wordFrom r chunk % 97) remainder

/-- The chunks hold the digits in their order. -/
theorem flatten_chunksOf {size : Nat} (hpos : 0 < size) (ds : List UInt8) :
    (chunksOf size hpos ds).flatten = ds := by
  induction ds using chunksOf.induct size hpos with
  | case1 => rw [chunksOf, List.flatten_nil]
  | case2 d ds ih => rw [chunksOf, List.flatten_cons, ih, List.take_append_drop]

theorem length_le_of_mem_chunksOf {size : Nat} (hpos : 0 < size) (ds : List UInt8) :
    ∀ chunk ∈ chunksOf size hpos ds, chunk.length ≤ size := by
  induction ds using chunksOf.induct size hpos with
  | case1 => rw [chunksOf]; exact nofun
  | case2 d ds ih =>
    rw [chunksOf, List.forall_mem_cons]
    exact ⟨List.length_take_le _ _, ih⟩

theorem mem_of_mem_chunksOf {size : Nat} {hpos : 0 < size} {ds chunk : List UInt8}
    (h : chunk ∈ chunksOf size hpos ds) {d : UInt8} (hd : d ∈ chunk) : d ∈ ds := by
  rw [← flatten_chunksOf hpos ds]
  exact List.mem_flatten.mpr ⟨chunk, h, hd⟩

/-- Digits that a chunk has room for are taken into the running value. -/
theorem foldInChunks_append (size : Nat) {chunk : List UInt8} {left : Nat}
    (h : chunk.length ≤ left) (acc : UInt64) (rest : List UInt8) :
    foldInChunks size left acc (chunk ++ rest)
      = foldInChunks size (left - chunk.length) (wordFrom acc chunk) rest := by
  induction chunk generalizing left acc with
  | nil => rfl
  | cons d chunk ih =>
    rw [List.length_cons] at h
    obtain ⟨left, rfl⟩ : ∃ k, left = k + 1 := ⟨left - 1, by omega⟩
    rw [List.length_cons, Nat.add_sub_add_right]
    exact ih (by omega) _

theorem mod_mod_self (acc : UInt64) : acc % 97 % 97 = acc % 97 := by
  rw [← UInt64.toNat_inj]
  simp

/-- At the end of a chunk, be it full or the last, the running value is cut back, and a new chunk
begins. -/
theorem foldInChunks_cut {size left : Nat} (hpos : 0 < size) (acc : UInt64) {rest : List UInt8}
    (h : left = 0 ∨ rest = []) :
    foldInChunks size left acc rest = foldInChunks size size (acc % 97) rest := by
  cases rest with
  | nil => rw [foldInChunks, foldInChunks, mod_mod_self]
  | cons d rest =>
    obtain ⟨k, rfl⟩ : ∃ k, size = k + 1 := ⟨size - 1, by omega⟩
    rcases h with rfl | hnil
    · rfl
    · cases hnil

/-- From a remainder on, the fold goes chunk by chunk. -/
theorem foldInChunks_eq {size : Nat} (hpos : 0 < size) (ds : List UInt8) {remainder : UInt64}
    (h : remainder % 97 = remainder) :
    foldInChunks size size remainder ds = foldChunks remainder (chunksOf size hpos ds) := by
  induction ds using chunksOf.induct size hpos generalizing remainder with
  | case1 => rw [chunksOf, foldInChunks, h]; rfl
  | case2 d ds ih =>
    -- Either the chunk is full now or there are no more digits.
    have hend : size - ((d :: ds).take size).length = 0 ∨ (d :: ds).drop size = [] := by
      rw [List.length_take, List.drop_eq_nil_iff]
      omega
    calc foldInChunks size size remainder (d :: ds)
        = foldInChunks size size remainder ((d :: ds).take size ++ (d :: ds).drop size) := by
          rw [List.take_append_drop]
      _ = foldInChunks size (size - ((d :: ds).take size).length)
            (wordFrom remainder ((d :: ds).take size)) ((d :: ds).drop size) :=
          foldInChunks_append size (List.length_take_le _ _) remainder _
      _ = foldInChunks size size (wordFrom remainder ((d :: ds).take size) % 97)
            ((d :: ds).drop size) := foldInChunks_cut hpos _ hend
      _ = foldChunks (wordFrom remainder ((d :: ds).take size) % 97)
            (chunksOf size hpos ((d :: ds).drop size)) := ih (mod_mod_self _)
      _ = foldChunks remainder (chunksOf size hpos (d :: ds)) := by rw [chunksOf]; rfl

/-- **The fold is the nested fold over the chunks.** -/
theorem remainderInChunks_eq {size : Nat} (hpos : 0 < size) (ds : List UInt8) :
    remainderInChunks size ds = foldChunks 0 (chunksOf size hpos ds) :=
  foldInChunks_eq hpos ds rfl

/-! ### The values on the way -/

/-- **Within a chunk nothing wraps around**: the running value is the number that the digits spell
behind the remainder. -/
theorem wordFrom_spec {size left : Nat} (hsize : 97 * 10 ^ size ≤ 2 ^ 64) (hleft : left ≤ size)
    {ds : List UInt8} (hds : ∀ d ∈ ds, d.toNat ≤ 9) (hlength : ds.length ≤ left) {acc : UInt64}
    (h : Within size left acc) :
    (wordFrom acc ds).toNat = valueFrom acc.toNat ds
      ∧ Within size (left - ds.length) (wordFrom acc ds) := by
  induction ds generalizing left acc with
  | nil => exact ⟨rfl, h⟩
  | cons d ds ih =>
    rw [List.forall_mem_cons] at hds
    rw [List.length_cons] at hlength
    obtain ⟨left, rfl⟩ : ∃ k, left = k + 1 := ⟨left - 1, by omega⟩
    -- The bound on the word goes down with the room that is left in the chunk.
    obtain ⟨hword, hwithin⟩ := toNat_step hsize hleft hds.1 h
    rw [List.length_cons, Nat.add_sub_add_right, valueFrom_cons, ← hword]
    exact ih (by omega) hds.2 (by omega) hwithin

theorem within_foldChunks (size : Nat) (chunks : List (List UInt8)) :
    Within size size (foldChunks 0 chunks) := by
  induction chunks using List.reverseRecOn with
  | nil => exact within_zero size
  | append_singleton before chunk _ =>
    rw [foldChunks, List.foldl_append]
    exact within_mod size _

/-- The number in digits, the last digit first. -/
theorem value_eq_ofDigits (ds : List UInt8) :
    value ds = Nat.ofDigits 10 (ds.map UInt8.toNat).reverse := by
  induction ds using List.reverseRecOn with
  | nil => rfl
  | append_singleton ds d ih =>
    have hlast : value (ds ++ [d]) = value ds * 10 + d.toNat := by
      rw [value, valueFrom, List.foldl_append]
      rfl
    rw [hlast, ih, List.map_append, List.reverse_append, List.map_singleton,
      List.reverse_singleton, List.singleton_append, Nat.ofDigits_cons, Nat.mul_comm, Nat.add_comm]

/-! ### Everything together -/

/-- Everything about the remainder of a row of digits. -/
structure FoldsWhole (digits : List UInt8) : Prop where
  /-- It is the remainder of the number that all the digits spell. -/
  whole : (remainder97 digits).toNat = Nat.ofDigits 10 (digits.map UInt8.toNat).reverse % 97
  /-- It comes out of the fold over the chunks of seven digits. -/
  nested : remainder97 digits = foldChunks 0 (chunksOf chunkSize (by decide) digits)
  /-- Wherever the fold stands in a chunk, the running value is the natural number that the digits
  of the chunk spell behind the remainder of those before it, and below a thousand million. -/
  running : ∀ before front rest after,
    chunksOf chunkSize (by decide) digits = before ++ (front ++ rest) :: after →
    (wordFrom (foldChunks 0 before) front).toNat = valueFrom (foldChunks 0 before).toNat front
      ∧ (wordFrom (foldChunks 0 before) front).toNat < 10 ^ 9
  /-- Chunks of any other size give the same, if a remainder with a chunk behind it fits a word. -/
  anySize : ∀ size, 0 < size → 97 * 10 ^ size < 2 ^ 64 →
    remainderInChunks size digits = remainder97 digits

/-- **The remainder is that of the whole number, for every size of chunk that fits.** -/
theorem foldsWhole {digits : List UInt8} (h : ∀ d ∈ digits, d.toNat ≤ 9) : FoldsWhole digits := by
  refine ⟨?_, remainderInChunks_eq (by decide) digits, ?_, ?_⟩
  · rw [toNat_remainder97 h, value_eq_ofDigits]
  · intro before front rest after hchunks
    have hmem : front ++ rest ∈ chunksOf chunkSize (by decide) digits := by
      rw [hchunks]
      exact List.mem_append_right _ List.mem_cons_self
    have hfront : front.length ≤ chunkSize := by
      have hlength := length_le_of_mem_chunksOf _ digits _ hmem
      rw [List.length_append] at hlength
      omega
    have hdigits : ∀ d ∈ front, d.toNat ≤ 9 :=
      fun d hd => h d (mem_of_mem_chunksOf hmem (List.mem_append_left _ hd))
    obtain ⟨hvalue, hwithin⟩ := wordFrom_spec (by decide) (Nat.le_refl _) hdigits hfront
      (within_foldChunks chunkSize before)
    refine ⟨hvalue, ?_⟩
    have hpow : 97 * 10 ^ (chunkSize - (chunkSize - front.length)) ≤ 97 * 10 ^ chunkSize :=
      Nat.mul_le_mul_left _ (Nat.pow_le_pow_right (by decide) (Nat.sub_le _ _))
    exact Nat.lt_of_lt_of_le hwithin (Nat.le_trans hpow (by decide))
  · intro size hpos hsize
    rw [← UInt64.toNat_inj, toNat_remainder97 h,
      toNat_remainderInChunks hpos (Nat.le_of_lt hsize) h]

/-- A row with a short last chunk, which spells a multiple of 97 and one. -/
theorem foldsWhole_short : (∀ d ∈ ([9, 7, 0, 0, 0, 0, 0, 1] : List UInt8), d.toNat ≤ 9)
    ∧ chunksOf chunkSize (by decide) [9, 7, 0, 0, 0, 0, 0, 1] = [[9, 7, 0, 0, 0, 0, 0], [1]]
    ∧ (remainder97 [9, 7, 0, 0, 0, 0, 0, 1]).toNat = 97000001 % 97
    ∧ remainderInChunks 17 [9, 7, 0, 0, 0, 0, 0, 1] = remainder97 [9, 7, 0, 0, 0, 0, 0, 1] := by
  have hall : ([9, 7, 0, 0, 0, 0, 0, 1].all fun d : UInt8 => decide (d.toNat ≤ 9)) = true := by
    decide
  have hdigits : ∀ d ∈ ([9, 7, 0, 0, 0, 0, 0, 1] : List UInt8), d.toNat ≤ 9 :=
    fun d hd => of_decide_eq_true (List.all_eq_true.mp hall d hd)
  have hwhole := foldsWhole hdigits
  refine ⟨hdigits, by simp [chunksOf, chunkSize], ?_, hwhole.anySize 17 (by decide) (by decide)⟩
  rw [hwhole.whole]
  rfl

end IbanWatch.Iban
