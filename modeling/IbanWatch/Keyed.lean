/-!
# Values under keys

A row of values, each under a key of its own, in the order in which the keys came.

## Main definitions

* `Keyed` — the rows.
* `Keyed.find?`, `Keyed.set` — the value of a key, and the row with one value replaced or added.
* `Keyed.erase` — the row without the value of a key.

## Main results

* `Keyed.find?_set` — what is found after a value was set.
* `Keyed.find?_erase` — what is found after a value was erased.
-/

namespace IbanWatch

/-- Values under keys. -/
abbrev Keyed (α : Type) := List (String × α)

namespace Keyed

variable {α : Type}

/-- The value of a key. -/
def find? (entries : Keyed α) (key : String) : Option α :=
  match entries with
  | [] => none
  | (k, v) :: rest => if k = key then some v else find? rest key

/-- The row with the value of one key replaced or, if there is none, added at the end. -/
def set (key : String) (value : α) : Keyed α → Keyed α
  | [] => [(key, value)]
  | (k, v) :: rest => if k = key then (key, value) :: rest else (k, v) :: set key value rest

/-- The row without the value of one key. -/
def erase (key : String) (entries : Keyed α) : Keyed α := entries.filter fun (k, _) => k ≠ key

@[simp] theorem find?_nil (key : String) : find? ([] : Keyed α) key = none := rfl

theorem find?_cons (k key : String) (v : α) (rest : Keyed α) :
    find? ((k, v) :: rest) key = if k = key then some v else find? rest key := rfl

theorem find?_set (entries : Keyed α) (key other : String) (value : α) :
    find? (entries.set key value) other
      = if key = other then some value else find? entries other := by
  induction entries with
  | nil => simp [set, find?]
  | cons entry rest ih =>
    obtain ⟨k, v⟩ := entry
    by_cases hk : k = key
    · subst hk
      by_cases ho : k = other <;> simp [set, find?, ho]
    · by_cases ho : k = other
      · subst ho
        simp [set, find?, hk, Ne.symm hk]
      · simp [set, find?, hk, ho, ih]

theorem find?_erase (entries : Keyed α) (key other : String) :
    find? (entries.erase key) other = if key = other then none else find? entries other := by
  induction entries with
  | nil => simp [erase]
  | cons entry rest ih =>
    obtain ⟨k, v⟩ := entry
    by_cases hk : k = key
    · subst hk
      by_cases ho : k = other <;> simp_all [erase, find?_cons]
    · by_cases ho : k = other
      · subst ho
        simp_all [erase, find?_cons, Ne.symm hk]
      · simp_all [erase, find?_cons]

end Keyed

end IbanWatch
