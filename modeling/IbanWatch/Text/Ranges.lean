/-!
# Sets of code points given by ranges

A property of characters is carried as a table: the closed ranges of code points that have it,
ascending and apart.  The order of the ranges lets a search stop at the first one that begins
past the code point, and a table that is not in order cannot be made.

## Main definitions

* `Ranges` — a table of closed ranges of code points.
* `Ranges.contains` — whether a code point lies in one of them.

## Main results

* `Ranges.contains_iff` — a search that stops early misses nothing.
-/

namespace IbanWatch.Text

/-- Whether the ranges begin at `bound` or later and are in order, where between one and the next a
code point is left out. -/
def isAscending (bound : Nat) : List (Nat × Nat) → Bool
  | [] => true
  | (low, high) :: rest => bound ≤ low && low ≤ high && isAscending (high + 2) rest

/-- A table of closed ranges of code points, each given by its ends. -/
structure Ranges where
  /-- The ranges. -/
  ranges : List (Nat × Nat)
  /-- They are in order and apart. -/
  ascending : isAscending 0 ranges = true := by decide +kernel

/-- Whether `n` lies in one of the ranges, looking no further than the first one above `n`. -/
def containedIn (n : Nat) : List (Nat × Nat) → Bool
  | [] => false
  | (low, high) :: rest => if n < low then false else n ≤ high || containedIn n rest

namespace Ranges

/-- Whether `n` lies in one of the ranges of the table. -/
def contains (table : Ranges) (n : Nat) : Bool := containedIn n table.ranges

/-- In ranges that are in order, every one begins at the bound or later. -/
theorem le_of_isAscending {bound : Nat} {ranges : List (Nat × Nat)}
    (h : isAscending bound ranges = true) : ∀ range ∈ ranges, bound ≤ range.1 := by
  induction ranges generalizing bound with
  | nil => exact nofun
  | cons first rest ih =>
    obtain ⟨low, high⟩ := first
    simp only [isAscending, Bool.and_eq_true, decide_eq_true_eq] at h
    intro range hrange
    rcases List.mem_cons.mp hrange with rfl | hrest
    · exact h.1.1
    · have hlater := ih h.2 range hrest
      omega

/-- **A search that stops early misses nothing**: a code point is in the table just when one of its
ranges has it. -/
theorem contains_iff (table : Ranges) (n : Nat) :
    table.contains n = true ↔ ∃ range ∈ table.ranges, range.1 ≤ n ∧ n ≤ range.2 := by
  obtain ⟨ranges, h⟩ := table
  show containedIn n ranges = true ↔ ∃ range ∈ ranges, range.1 ≤ n ∧ n ≤ range.2
  generalize 0 = bound at h
  induction ranges generalizing bound with
  | nil => simp [containedIn]
  | cons first rest ih =>
    obtain ⟨low, high⟩ := first
    simp only [isAscending, Bool.and_eq_true, decide_eq_true_eq] at h
    rw [containedIn]
    by_cases hlow : n < low
    · -- The search stops here, and the ranges behind begin later still.
      rw [if_pos hlow]
      refine iff_of_false Bool.false_ne_true ?_
      rintro ⟨range, hrange, hle, -⟩
      rcases List.mem_cons.mp hrange with rfl | hrest
      · exact absurd hle (Nat.not_le_of_lt hlow)
      · have hlater := le_of_isAscending h.2 range hrest
        omega
    · rw [if_neg hlow, Bool.or_eq_true, decide_eq_true_eq, ih _ h.2]
      simp [Nat.le_of_not_lt hlow]

end Ranges

end IbanWatch.Text
