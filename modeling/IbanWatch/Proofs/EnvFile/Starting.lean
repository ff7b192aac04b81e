import IbanWatch.Startup
import IbanWatch.Proofs.EnvFile.Completion

/-!
# Starting with a file of variables

A watch starts under the environment as it is completed by the file of variables, and the names of
the other files are looked up in it too.  So what cannot be loaded under this environment cannot be
started, and for the same reason; beyond that only the client can refuse.  A bad line of the file
has no failure of its own: it ends the file, and the lines before it count.

There is one exception, and it is no failure but an unwinding: no variable can hold a NUL, so a file
that gives one to an open variable never comes to the loading.  The client can unwind as well, but
only when something was loaded.

## Main definitions

* `fileAssignments` — what the file of variables assigns.
* `GivesNul` — a variable is to have a value that none can have.
* `StartsUnder` — everything about a start under an environment and a file of variables.

## Main results

* `fullEnvironment_eq` — the file completes the environment, if there is room for what it adds.
* `goodLines_of_lines` — a bad line cancels none of the lines before it.
* `start_eq` — a start is decided by what is loaded under the completed environment.
* `startsUnder_completed` — **a watch starts under the environment that its file completes**.
* `unwound_by_nul` — a file that parses and still keeps the watch from starting.
-/

namespace IbanWatch

open Text EnvFile

/-- What the file of variables assigns, if there is one. -/
def fileAssignments (file : Option Bytes) (env : Environment) : Keyed String :=
  match file with
  | none => []
  | some content => assignments env [] (goodLines content)

/-- **The file completes the environment** by what it assigns, if there is room for it. -/
theorem fullEnvironment_eq (file : Option Bytes) (env : Environment) :
    fullEnvironment file env = if AreStorable (env.additions (fileAssignments file env))
      then .returned (env.completedBy (fileAssignments file env)) else .unwound := by
  cases file with
  | none =>
    have hroom : AreStorable (env.additions []) := areStorable_nil
    rw [fullEnvironment, fileAssignments, env.completedBy_nil, if_pos hroom]
  | some content => exact extend_eq env content

/-- An empty value stays, and is what a reference to it gives; the second value of a name and what
is behind the bad line are lost. -/
example : fullEnvironment (some (utf8 "A=1\nB=$A-\nB=2\nno line\nC=3\n")) [("A", "")]
    = .returned [("A", ""), ("B", "-")] := by decide +kernel

namespace EnvFile

theorem takeWhile_parses_map_some {good : List (List Char)}
    (hgood : ∀ line ∈ good, parses (some line) = true) (rest : List (Option (List Char))) :
    (good.map some ++ rest).takeWhile parses = good.map some ++ rest.takeWhile parses := by
  refine List.takeWhile_append_of_pos fun row hrow => ?_
  obtain ⟨line, hline, rfl⟩ := List.mem_map.mp hrow
  exact hgood line hline

/-- The lines before the first bad one are good, whatever is behind it. -/
theorem goodLines_of_lines {content : Bytes} {good : List (List Char)}
    {rest : List (Option (List Char))}
    (hlines : lines content = good.map some ++ rest)
    (hgood : ∀ line ∈ good, parses (some line) = true)
    (hrest : ∀ row ∈ rest.head?, parses row = false) : goodLines content = good := by
  -- The first row of the rest is bad, or there is none.
  have hnone : rest.takeWhile parses = [] := by
    cases rest with
    | nil => rfl
    | cons row others =>
      have hbad : ¬ parses row = true := by
        rw [hrest row rfl]
        exact Bool.false_ne_true
      exact List.takeWhile_cons_of_neg hbad
  rw [goodLines, hlines, takeWhile_parses_map_some hgood, hnone, List.append_nil]
  simp [List.reduceOption, List.filterMap_map]

end EnvFile

/-! ### How a start ends -/

theorem start_eq (d : Directory) (file : Option Bytes) (env : Environment) :
    start d file env = if AreStorable (env.additions (fileAssignments file env))
      then startWith (Config.load d (env.completedBy (fileAssignments file env)))
      else .unwound := by
  rw [start, fullEnvironment_eq]
  split
  · rfl
  · rfl

section StartWith

variable {loaded : Except Config.Fault Config}

theorem startWith_eq_config_iff (fault : Config.Fault) :
    startWith loaded = .returned (.error (.config fault)) ↔ loaded = .error fault := by
  cases loaded with
  | error found => simp [startWith]
  | ok c =>
    -- Whatever the client does, its refusals are none of the configuration.
    cases hconnect : Client.connect c.stream with
    | unwound => simp [startWith, hconnect]
    | returned made => cases made <;> simp [startWith, hconnect]

theorem startWith_eq_client_iff (refusal : Client.Refusal) :
    startWith loaded = .returned (.error (.client refusal))
      ↔ ∃ c, loaded = .ok c ∧ Client.connect c.stream = .returned (.error refusal) := by
  cases loaded with
  | error found => simp [startWith]
  | ok c =>
    cases hconnect : Client.connect c.stream with
    | unwound => simp [startWith, hconnect]
    | returned made => cases made <;> simp [startWith, hconnect]

theorem startWith_eq_unwound_iff :
    startWith loaded = .unwound ↔ ∃ c, loaded = .ok c ∧ Client.connect c.stream = .unwound := by
  cases loaded with
  | error found => simp [startWith]
  | ok c =>
    cases hconnect : Client.connect c.stream with
    | unwound => simp [startWith, hconnect]
    | returned made => cases made <;> simp [startWith, hconnect]

theorem startWith_eq_ok_iff (c : Config) : startWith loaded = .returned (.ok c)
    ↔ loaded = .ok c ∧ Client.connect c.stream = .returned (.ok ()) := by
  constructor
  · intro h
    cases loaded with
    | error found => cases h
    | ok found =>
      -- What the client refuses is loaded all the same, but not started.
      cases hconnect : Client.connect found.stream with
      | unwound => simp [startWith, hconnect] at h
      | returned made =>
        cases made with
        | error refusal => simp [startWith, hconnect] at h
        | ok u =>
          simp only [startWith, hconnect] at h
          cases h
          exact ⟨rfl, hconnect⟩
  · rintro ⟨rfl, hmade⟩
    simp only [startWith, hmade]

end StartWith

/-! ### Values that no variable can have -/

/-- A variable that is open in one environment has a NUL in its value in another. -/
def GivesNul (env full : Environment) : Prop :=
  ∃ name value, env.find? name = none ∧ full.find? name = some value ∧ '\x00' ∈ value.toList

theorem isStorable_eq_false_iff {value : String} :
    isStorable value = false ↔ '\x00' ∈ value.toList := by
  rw [isStorable, Bool.not_eq_false', hasNul, List.contains_iff_mem]

/-- There is no room for what is added just when some of it has a NUL. -/
theorem not_areStorable_iff (env : Environment) (given : Keyed String) :
    ¬ AreStorable (env.additions given) ↔ GivesNul env (env.completedBy given) := by
  constructor
  · intro h
    obtain ⟨⟨name, value⟩, hadded, hroom⟩ := not_forall₂.mp h
    obtain ⟨hopen, hgiven⟩ := Environment.mem_additions_iff.mp hadded
    refine ⟨name, value, hopen, ?_, isStorable_eq_false_iff.mp (Bool.not_eq_true _ ▸ hroom)⟩
    -- The variable is open, so what is added to it is what it has in the end.
    rw [Environment.find?_completedBy, hopen, hgiven]
    rfl
  · rintro ⟨name, value, hopen, hvalue, hnul⟩ h
    rw [Environment.find?_completedBy, hopen, Option.none_or] at hvalue
    have hroom := h _ (Environment.mem_additions_iff.mpr ⟨hopen, hvalue⟩)
    rw [isStorable_eq_false_iff.mpr hnul] at hroom
    cases hroom

/-! ### Everything together -/

/-- Everything about a start with these files and variables, when `full` is the environment that it
is made under. -/
structure StartsUnder (d : Directory) (file : Option Bytes) (env full : Environment) : Prop where
  /-- Where there is a value in the environment, even an empty one, the file is not asked. -/
  kept : ∀ name value, env.find? name = some value → full.find? name = some value
  /-- Else the first assignment of the file counts. -/
  given : ∀ name, env.find? name = none →
    full.find? name = (fileAssignments file env).find? name
  /-- A bad line ends the file: the lines before it count, and nothing else in it does. -/
  bad : ∀ content, file = some content → ∀ good rest,
    lines content = good.map some ++ rest →
      (∀ line ∈ good, parses (some line) = true) → (∀ row ∈ rest.head?, parses row = false) →
        full = env.completedBy (assignments env [] good)
  /-- Without a file the environment stays as it is. -/
  absent : file = none → full = env
  /-- The start is unwound just when the file gives a value that no variable can have, or a client
  is to be made from what was loaded and unwinds. -/
  unwound : start d file env = .unwound ↔ GivesNul env full
    ∨ ∃ c, Config.load d full = .ok c ∧ Client.connect c.stream = .unwound
  /-- Else there is no configuration to start with just when none can be loaded, for the same
  reason. -/
  config : ¬ GivesNul env full → ∀ fault,
    start d file env = .returned (.error (.config fault)) ↔ Config.load d full = .error fault
  /-- Else the client may refuse the configuration. -/
  client : ¬ GivesNul env full → ∀ refusal,
    start d file env = .returned (.error (.client refusal)) ↔
      ∃ c, Config.load d full = .ok c ∧ Client.connect c.stream = .returned (.error refusal)
  /-- Else the watch starts with what was loaded. -/
  ok : ¬ GivesNul env full → ∀ c, start d file env = .returned (.ok c) ↔
    Config.load d full = .ok c ∧ Client.connect c.stream = .returned (.ok ())

/-- **A watch starts under the environment that its file completes.** -/
theorem startsUnder_completed (d : Directory) (file : Option Bytes) (env : Environment) :
    StartsUnder d file env (env.completedBy (fileAssignments file env)) := by
  -- Without such a value all the rest is about what is loaded under the completed environment.
  have hstart : ¬ GivesNul env (env.completedBy (fileAssignments file env)) →
      start d file env =
        startWith (Config.load d (env.completedBy (fileAssignments file env))) := by
    intro hnul
    rw [← not_areStorable_iff, not_not] at hnul
    rw [start_eq, if_pos hnul]
  refine ⟨fun name value hvalue => ?_, fun name hnone => ?_, ?_, fun hfile => ?_, ?_,
    fun hnul fault => ?_, fun hnul refusal => ?_, fun hnul c => ?_⟩
  · rw [Environment.find?_completedBy, hvalue]
    rfl
  · rw [Environment.find?_completedBy, hnone]
    rfl
  -- Nothing behind the bad line is assigned, so it does not matter what it is.
  · intro content hfile good rest hlines hgood hrest
    simp only [fileAssignments, hfile, goodLines_of_lines hlines hgood hrest]
  · simp only [fileAssignments, hfile]
    exact env.completedBy_nil
  · by_cases hnul : GivesNul env (env.completedBy (fileAssignments file env))
    · have hroom := (not_areStorable_iff env (fileAssignments file env)).mpr hnul
      rw [start_eq, if_neg hroom]
      exact iff_of_true rfl (.inl hnul)
    · rw [hstart hnul, startWith_eq_unwound_iff, or_iff_right hnul]
  · rw [hstart hnul, startWith_eq_config_iff]
  · rw [hstart hnul, startWith_eq_client_iff]
  · rw [hstart hnul, startWith_eq_ok_iff]

/-- The one line of this file parses, and nothing can be loaded under the environment that it
completes, since there are no brokers.  But the start does not come to that: the value has a NUL. -/
theorem unwound_by_nul :
    goodLines (utf8 "A=x\x00y\n") = ["A=x\x00y".toList]
      ∧ fileAssignments (some (utf8 "A=x\x00y\n")) [] = [("A", "x\x00y")]
      ∧ Config.load [] (Environment.completedBy [] [("A", "x\x00y")]) = .error .missingBroker
      ∧ start [] (some (utf8 "A=x\x00y\n")) [] = .unwound := by
  refine ⟨by decide +kernel, by decide +kernel, by rfl, by rfl⟩

end IbanWatch
