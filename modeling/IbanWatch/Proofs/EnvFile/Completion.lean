import IbanWatch.EnvFile.Assignment
import Mathlib.Data.List.ReduceOption

/-!
# The environment with a file of variables

A file of variables is read line by line, and each variable it sets changes the environment in which
the rest is read: a later line may refer to it, and may not set it again.  Here the outcome is said
at once.  Which lines are bad does not depend on the values of variables, so the lines before the
first bad one are known beforehand; what these assign is a row of names and values, and of each name
that the environment leaves open the first value is taken.  A reference is to the environment as it
is completed by the assignments of the lines before.

A value with a NUL has no room in an environment.  The first one that is taken unwinds the program,
so there is an environment in the end just when there is room for all that is added.

## Main definitions

* `Keyed.firsts` — a row with no more than the first value of each key.
* `Environment.additions`, `Environment.completedBy` — what an environment leaves open, taken from a
  row of assignments, and the environment with it.
* `parses`, `goodLines` — a line that is not bad, and the lines before the first bad one.
* `assignments` — what lines assign.
* `AreStorable` — there is room for every value of a row.

## Main results

* `find?_completedBy` — a variable of the environment stays, and another has its first assignment.
* `isBad_readLine` — whether a line is bad does not depend on the values of variables.
* `extend_eq` — **the environment is completed by the assignments of the good lines**, unless there
  is no room for one of them.
-/

namespace IbanWatch

/-! ### The first value of each key -/

namespace Keyed

variable {α : Type}

/-- The row with no more than the first value of each key. -/
def firsts : Keyed α → Keyed α
  | [] => []
  | (key, value) :: rest => (key, value) :: (firsts rest).erase key

theorem find?_append (entries others : Keyed α) (key : String) :
    find? (entries ++ others) key = (find? entries key).or (find? others key) := by
  induction entries with
  | nil => rfl
  | cons entry rest ih =>
    obtain ⟨k, v⟩ := entry
    by_cases hk : k = key
    · rw [List.cons_append, find?_cons, if_pos hk, find?_cons, if_pos hk]
      rfl
    · rw [List.cons_append, find?_cons, if_neg hk, find?_cons, if_neg hk, ih]

theorem set_of_find?_eq_none {entries : Keyed α} {key : String} (h : find? entries key = none)
    (value : α) : entries.set key value = entries ++ [(key, value)] := by
  induction entries with
  | nil => rfl
  | cons entry rest ih =>
    obtain ⟨k, v⟩ := entry
    rw [find?_cons] at h
    by_cases hk : k = key
    · rw [if_pos hk] at h
      cases h
    · rw [if_neg hk] at h
      rw [set, if_neg hk, ih h, List.cons_append]

theorem erase_append (entries others : Keyed α) (key : String) :
    (entries ++ others).erase key = entries.erase key ++ others.erase key :=
  List.filter_append ..

theorem find?_firsts (entries : Keyed α) (key : String) :
    find? (firsts entries) key = find? entries key := by
  induction entries with
  | nil => rfl
  | cons entry rest ih =>
    obtain ⟨k, v⟩ := entry
    rw [firsts, find?_cons, find?_cons, find?_erase]
    by_cases hk : k = key
    · rw [if_pos hk, if_pos hk]
    · rw [if_neg hk, if_neg hk, if_neg hk, ih]

theorem mem_of_find? {entries : Keyed α} {key : String} {value : α}
    (h : find? entries key = some value) : (key, value) ∈ entries := by
  induction entries with
  | nil => cases h
  | cons entry rest ih =>
    obtain ⟨k, v⟩ := entry
    rw [find?_cons] at h
    by_cases hk : k = key
    · rw [if_pos hk] at h
      obtain rfl := Option.some.inj h
      rw [hk]
      exact List.mem_cons_self
    · rw [if_neg hk] at h
      exact List.mem_cons_of_mem _ (ih h)

/-- With one value of each key, what stands in a row is found. -/
theorem mem_firsts_iff {entries : Keyed α} {key : String} {value : α} :
    (key, value) ∈ firsts entries ↔ find? entries key = some value := by
  constructor
  · intro h
    induction entries with
    | nil => cases h
    | cons entry rest ih =>
      obtain ⟨k, v⟩ := entry
      rw [find?_cons]
      rcases List.mem_cons.mp h with heq | hrest
      · obtain ⟨rfl, rfl⟩ := Prod.mk.inj heq
        rw [if_pos rfl]
      -- What is left behind the first value has another key.
      · obtain ⟨hmem, hne⟩ := List.mem_filter.mp hrest
        have hk : ¬ k = key := fun hk => (of_decide_eq_true hne) hk.symm
        rw [if_neg hk]
        exact ih hmem
  · intro h
    rw [← find?_firsts] at h
    exact mem_of_find? h

/-- One more value stays if its key is new. -/
theorem firsts_concat (entries : Keyed α) (key : String) (value : α) :
    firsts (entries ++ [(key, value)])
      = firsts entries ++ if (find? entries key).isNone then [(key, value)] else [] := by
  induction entries with
  | nil => rfl
  | cons entry rest ih =>
    obtain ⟨k, v⟩ := entry
    rw [List.cons_append, firsts, ih, erase_append, firsts, find?_cons]
    by_cases hk : k = key
    · -- The key was there, and what is added under it goes again.
      rw [if_pos hk, hk]
      split <;> simp [erase]
    · rw [if_neg hk]
      have hkey : key ≠ k := Ne.symm hk
      split <;> simp [erase, hkey]

theorem find?_filter (entries : Keyed α) (p : String → Bool) (key : String) :
    find? (entries.filter fun entry => p entry.1) key
      = if p key then find? entries key else none := by
  induction entries with
  | nil => simp
  | cons entry rest ih =>
    obtain ⟨k, v⟩ := entry
    rw [List.filter_cons]
    by_cases hk : k = key
    · subst hk
      by_cases hp : p k = true
      · rw [if_pos hp, if_pos hp, find?_cons, find?_cons, if_pos rfl, if_pos rfl]
      · rw [if_neg hp, ih, if_neg hp, if_neg hp]
    · rw [find?_cons, if_neg hk, ← ih]
      by_cases hp : p k = true
      · rw [if_pos hp, find?_cons, if_neg hk]
      · rw [if_neg hp]

end Keyed

/-! ### Completing an environment -/

namespace Environment

/-- What these assignments add to the environment: the first one to each variable that it leaves
open. -/
def additions (env : Environment) (given : Keyed String) : Keyed String :=
  given.firsts.filter fun entry => (env.find? entry.1).isNone

/-- The environment with what these assignments add to it. -/
def completedBy (env : Environment) (given : Keyed String) : Environment :=
  env ++ env.additions given

theorem completedBy_nil (env : Environment) : env.completedBy [] = env := List.append_nil env

/-- What is added is the first assignment to a variable that is open. -/
theorem mem_additions_iff {env : Environment} {given : Keyed String} {name value : String} :
    (name, value) ∈ env.additions given
      ↔ env.find? name = none ∧ given.find? name = some value := by
  rw [additions, List.mem_filter, Keyed.mem_firsts_iff, Option.isNone_iff_eq_none, and_comm]

/-- **A variable of the environment stays as it is**, and another has its first assignment. -/
theorem find?_completedBy (env : Environment) (given : Keyed String) (name : String) :
    (env.completedBy given).find? name = (env.find? name).or (given.find? name) := by
  rw [completedBy, additions, Keyed.find?_append,
    Keyed.find?_filter given.firsts (fun name => (env.find? name).isNone), Keyed.find?_firsts]
  -- Only what the environment leaves open was selected.
  cases env.find? name <;> rfl

theorem additions_concat (env : Environment) (given : Keyed String) (name value : String) :
    env.additions (given ++ [(name, value)]) = env.additions given
      ++ if ((env.completedBy given).find? name).isNone then [(name, value)] else [] := by
  rw [additions, Keyed.firsts_concat, List.filter_append, additions, find?_completedBy]
  congr 1
  cases given.find? name <;> cases henv : env.find? name <;> simp [henv]

end Environment

namespace EnvFile

open Text

/-- There is room for all values of the row. -/
def AreStorable (given : Keyed String) : Prop := ∀ entry ∈ given, isStorable entry.2 = true

theorem areStorable_nil : AreStorable [] := fun _ h => absurd h List.not_mem_nil

instance (given : Keyed String) : Decidable (AreStorable given) :=
  inferInstanceAs (Decidable (∀ entry ∈ given, isStorable entry.2 = true))

theorem areStorable_append {given later : Keyed String} :
    AreStorable (given ++ later) ↔ AreStorable given ∧ AreStorable later :=
  List.forall_mem_append

/-- **To set a variable if it is absent** is to complete the environment by one more assignment, if
there is room for what that adds. -/
theorem setIfAbsent_completedBy (env : Environment) (given : Keyed String) (name value : String)
    (h : AreStorable (env.additions given)) :
    setIfAbsent (env.completedBy given) name value
      = if AreStorable (env.additions (given ++ [(name, value)]))
        then .returned (env.completedBy (given ++ [(name, value)])) else .unwound := by
  have hconcat := env.additions_concat given name value
  have hcompleted : env.completedBy (given ++ [(name, value)]) = env.completedBy given
      ++ if ((env.completedBy given).find? name).isNone then [(name, value)] else [] := by
    rw [Environment.completedBy, hconcat, ← List.append_assoc, Environment.completedBy]
  rw [hcompleted, hconcat, setIfAbsent]
  cases hfound : (env.completedBy given).find? name with
  | some found =>
    -- The variable is set already, and nothing is added.
    simp only [Option.isNone_some, Bool.false_eq_true, if_false, List.append_nil, if_pos h]
  | none =>
    simp only [Option.isNone_none, if_true, areStorable_append]
    by_cases hstorable : isStorable value = true
    · have hone : AreStorable [(name, value)] := by simpa [AreStorable] using hstorable
      rw [if_pos hstorable, if_pos ⟨h, hone⟩, Keyed.set_of_find?_eq_none hfound]
    · have hone : ¬ AreStorable [(name, value)] := by simpa [AreStorable] using hstorable
      rw [if_neg hstorable, if_neg fun hall => hone hall.2]

/-! ### Bad lines -/

/-- The line is no line of such a file. -/
def Reading.isBad : Reading → Bool
  | .bad => true
  | .nothing | .assignment _ _ => false

theorem isSome_finish (lookup other : String → String) (mode : Mode) :
    (finish lookup mode).isSome = (finish other mode).isSome := by
  cases mode with
  | plain weak => cases weak <;> rfl
  | escape weak => cases weak <;> rfl
  | strong => rfl
  | name weak reversed => cases weak <;> rfl
  | braced weak reversed => rfl
  | behind => rfl

/-- Whether a value can be read does not depend on the values of other variables. -/
theorem isSome_readRest (lookup other : String → String) (mode : Mode) (text : List Char) :
    (readRest lookup mode text).isSome = (readRest other mode text).isSome := by
  induction text generalizing mode with
  | nil =>
    simp only [readRest]
    exact isSome_finish lookup other mode
  | cons c rest ih =>
    have hmap : ∀ (f g : List Char → List Char) (mode : Mode),
        (f <$> readRest lookup mode rest).isSome = (g <$> readRest other mode rest).isSome := by
      intro f g mode
      rw [Option.map_eq_map, Option.map_eq_map, Option.isSome_map, Option.isSome_map, ih]
    -- Both readers go the same way, and where they put something in front they differ in that only.
    cases mode with
    | plain weak =>
      simp only [readRest]
      split
      · exact ih _
      · exact hmap _ _ _
    | escape weak =>
      simp only [readRest]
      split
      · exact hmap _ _ _
      · rfl
    | strong =>
      simp only [readRest]
      split
      · exact ih _
      · exact hmap _ _ _
    | name weak reversed =>
      simp only [readRest]
      split
      · exact ih _
      split
      · exact ih _
      split
      · exact hmap _ _ _
      · exact hmap _ _ _
    | braced weak reversed =>
      simp only [readRest]
      split
      · exact hmap _ _ _
      · exact ih _
    | behind =>
      simp only [readRest]
      split
      · exact ih _
      split
      · rfl
      · rfl

/-- **Whether a line is bad does not depend on the values of variables.** -/
theorem isBad_readLine (lookup other : String → String) (line : List Char) :
    (readLine lookup line).isBad = (readLine other line).isBad := by
  simp only [readLine]
  split
  · rfl
  split
  · rfl
  · next name rest _ =>
    split
    · rfl
    -- Both readers read a value or neither does, although the values may differ.
    · have hsome := isSome_readRest lookup other (.plain false) (trimBlankStart rest)
      rw [readValue, readValue]
      cases hl : readRest lookup (.plain false) (trimBlankStart rest) with
      | none =>
        rw [hl, Option.isSome_none] at hsome
        have hnone := Option.isSome_eq_false_iff.mp hsome.symm
        rw [Option.isNone_iff_eq_none] at hnone
        rw [hnone]
      | some value =>
        rw [hl, Option.isSome_some] at hsome
        obtain ⟨found, hfound⟩ := Option.isSome_iff_exists.mp hsome.symm
        rw [hfound]
        rfl

/-- The line ends, and it is a line of such a file. -/
def parses : Option (List Char) → Bool
  | none => false
  | some line => !(readLine (fun _ => "") line).isBad

/-- The lines of a file before the first one that does not parse. -/
def goodLines (content : Bytes) : List (List Char) :=
  ((lines content).takeWhile parses).reduceOption

/-! ### Assignments -/

/-- What lines assign, in their order and behind what was given before.  A line may refer to
variables, which have the values of the environment as it is completed so far. -/
def assignments (env : Environment) (given : Keyed String) : List (List Char) → Keyed String
  | [] => given
  | line :: rest =>
    match readLine (reference (env.completedBy given)) line with
    | .assignment name value => assignments env (given ++ [(name, value)]) rest
    | .nothing | .bad => assignments env given rest

/-- What lines assign stands behind what was given, and so does what they add. -/
theorem additions_assignments (env : Environment) (given : Keyed String)
    (rows : List (List Char)) :
    ∃ more, env.additions (assignments env given rows) = env.additions given ++ more := by
  induction rows generalizing given with
  | nil => exact ⟨[], (List.append_nil _).symm⟩
  | cons line rest ih =>
    rw [assignments]
    cases readLine (reference (env.completedBy given)) line with
    | bad => exact ih given
    | nothing => exact ih given
    | assignment name value =>
      obtain ⟨more, hmore⟩ := ih (given ++ [(name, value)])
      rw [env.additions_concat, List.append_assoc] at hmore
      exact ⟨_, hmore⟩

/-- Reading lines completes the environment by what the good ones assign, or unwinds. -/
theorem extendBy_eq (env : Environment) (given : Keyed String) (rows : List (Option (List Char)))
    (h : AreStorable (env.additions given)) :
    extendBy (env.completedBy given) rows
      = if AreStorable (env.additions (assignments env given (rows.takeWhile parses).reduceOption))
        then .returned
          (env.completedBy (assignments env given (rows.takeWhile parses).reduceOption))
        else .unwound := by
  induction rows generalizing given with
  | nil => exact (if_pos h).symm
  | cons row rest ih =>
    cases row with
    | none => exact (if_pos h).symm
    | some line =>
      -- The line is bad under these values just when it is bad under none.
      have hbad := isBad_readLine (reference (env.completedBy given)) (fun _ => "") line
      rw [extendBy]
      cases hline : readLine (reference (env.completedBy given)) line with
      | bad =>
        rw [hline] at hbad
        rw [List.takeWhile_cons_of_neg (by rw [parses, ← hbad]; decide)]
        exact (if_pos h).symm
      | nothing =>
        rw [hline] at hbad
        rw [List.takeWhile_cons_of_pos (by rw [parses, ← hbad]; rfl),
          List.reduceOption_cons_of_some, assignments, hline]
        exact ih given h
      | assignment name value =>
        rw [hline] at hbad
        rw [List.takeWhile_cons_of_pos (by rw [parses, ← hbad]; rfl),
          List.reduceOption_cons_of_some, assignments, hline]
        show (setIfAbsent (env.completedBy given) name value).andThen (extendBy · rest) = _
        rw [setIfAbsent_completedBy env given name value h]
        by_cases hnext : AreStorable (env.additions (given ++ [(name, value)]))
        · rw [if_pos hnext]
          exact ih _ hnext
        · -- There is no room for this value, nor for all that is added in the end.
          obtain ⟨more, hmore⟩ := additions_assignments env (given ++ [(name, value)])
            (rest.takeWhile parses).reduceOption
          rw [if_neg hnext, hmore, if_neg fun hall => hnext (areStorable_append.mp hall).1]
          rfl

/-- **The environment is completed by the assignments of the good lines**, unless there is no room
for one of them. -/
theorem extend_eq (env : Environment) (content : Bytes) :
    extend env content = if AreStorable (env.additions (assignments env [] (goodLines content)))
      then .returned (env.completedBy (assignments env [] (goodLines content))) else .unwound := by
  have h := extendBy_eq env [] (lines content) areStorable_nil
  rwa [Environment.completedBy_nil] at h

end EnvFile

end IbanWatch
