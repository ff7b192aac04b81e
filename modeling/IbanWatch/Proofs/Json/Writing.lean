import IbanWatch.Proofs.Json.Reading

/-!
# What is written reads back

The writer escapes the quote, the backslash and the control characters and leaves every other
character as it is.  So each character is spelled in one of the ways of the grammar, and an object
of strings is read as just the members it was written from, whatever characters they are made of.

## Main results

* `spells_writeChar`, `quotes_writeText` — characters and strings are written by the grammar.
* `read_writeTexts` — **an object of strings reads back.**
* `le_of_mem_writeTexts` — it is written without control characters.
-/

namespace IbanWatch.Json

open Text

/-! ### Strings -/

theorem mem_shortEscapes_of_letterFor? {c letter : Char} (h : letterFor? c = some letter) :
    (letter, c) ∈ shortEscapes := by
  unfold letterFor? at h
  split at h
  case h_8 => cases h
  all_goals
    cases h
    decide

/-- A control character is escaped by the four digits of its code point. -/
theorem isHexWord_controlEscape {n : Nat} (h : n < 32) :
    IsHexWord ['0', '0', Nat.digitChar (n / 16), Nat.digitChar (n % 16)] n := by
  have hall : ∀ n < 32, isHexDigit (Nat.digitChar (n / 16)) = true
      ∧ isHexDigit (Nat.digitChar (n % 16)) = true
      ∧ numeralValue 16 ['0', '0', Nat.digitChar (n / 16), Nat.digitChar (n % 16)] = n := by
    decide
  obtain ⟨hhigh, hlow, hvalue⟩ := hall n h
  refine ⟨rfl, ?_, hvalue⟩
  simp only [List.forall_mem_cons]
  exact ⟨rfl, rfl, hhigh, hlow, nofun⟩

/-- **Every character is written in one of the ways to spell it.** -/
theorem spells_writeChar (c : Char) : Spells (writeChar c) c := by
  unfold writeChar
  -- The quote and the backslash have letters of their own, so what is left is plain.
  cases hletter : letterFor? c with
  | some letter => exact .short (mem_shortEscapes_of_letterFor? hletter)
  | none =>
    show Spells (if c.toNat < 32 then controlEscape c else [c]) c
    split
    · next hcontrol => exact .code (isHexWord_controlEscape hcontrol)
    · next hcontrol =>
      apply Spells.plain
      · exact Nat.not_lt.mp hcontrol
      · rintro rfl
        cases hletter
      · rintro rfl
        cases hletter

theorem spellsAll_writeChar (cs : List Char) : SpellsAll (cs.flatMap writeChar) cs := by
  induction cs with
  | nil => exact .nil
  | cons c cs ih => exact .cons (spells_writeChar c) ih

/-- **Every string is written as the grammar quotes it.** -/
theorem quotes_writeText (s : String) : Quotes (writeText s).toList s :=
  ⟨s.toList.flatMap writeChar, String.toList_ofList, spellsAll_writeChar s.toList⟩

/-! ### Objects of strings -/

/-- A member with its key and its value as they are written, without white space. -/
def plainMember (m : String × String) : MemberText where
  before := []
  keyText := (writeText m.1).toList
  after := []
  valueText := (writeText m.2).toList
  key := m.1
  value := .text m.2

theorem keyText_plainMember (m : String × String) :
    (plainMember m).keyText = (writeText m.1).toList := by
  simp only [plainMember]

theorem valueText_plainMember (m : String × String) :
    (plainMember m).valueText = (writeText m.2).toList := by
  simp only [plainMember]

/-- A member is written by the grammar. -/
theorem isKeyed_plainMember (m : String × String) : (plainMember m).IsKeyed := by
  have hkey : Quotes (plainMember m).keyText m.1 := by
    rw [keyText_plainMember]
    exact quotes_writeText m.1
  exact ⟨isBlank_nil, isBlank_nil, hkey⟩

theorem denotes_plainMember (depth : Nat) (m : String × String) :
    Denotes depth (plainMember m).valueText (plainMember m).value := by
  have hvalue : Quotes (plainMember m).valueText m.2 := by
    rw [valueText_plainMember]
    exact quotes_writeText m.2
  exact .scalar (.text hvalue)

theorem toList_writeTexts (members : List (String × String)) : (writeTexts members).toList
    = '{' :: (commaList ((members.map plainMember).map MemberText.text) ++ ['}']) := by
  simp [writeTexts, commaList, String.toList_intercalate, MemberText.text, plainMember,
    Function.comp_def]

/-- The members of strings as members of an object. -/
def textMembers (members : List (String × String)) : List (String × Value) :=
  members.map fun m => (m.1, .text m.2)

/-- What is written denotes the object that it was written from. -/
theorem denotes_writeTexts (depth : Nat) (members : List (String × String)) :
    Denotes (depth + 1) (writeTexts members).toList (.object (textMembers members)) := by
  rw [toList_writeTexts]
  cases members with
  | nil => exact .emptyObject isBlank_nil
  | cons m members =>
    have hmembers : textMembers (m :: members)
        = ((m :: members).map plainMember).map MemberText.member := by
      rw [List.map_map]
      rfl
    rw [hmembers]
    apply Denotes.object
    · exact List.cons_ne_nil _ _
    · intro p hp
      obtain ⟨m', -, rfl⟩ := List.mem_map.mp hp
      exact isKeyed_plainMember m'
    · intro p hp
      obtain ⟨m', -, rfl⟩ := List.mem_map.mp hp
      exact denotes_plainMember depth m'

/-- **An object of strings reads back**, with the members that it was written from and no others. -/
theorem read_writeTexts (members : List (String × String)) :
    read (utf8 (writeTexts members)) = .ok (.object (textMembers members)) :=
  read_eq_ok_iff.mpr ⟨writeTexts members, rfl, denotes_writeTexts 126 members⟩

/-! ### No control characters -/

/-- The four digits of a code point are no control characters. -/
theorem IsHexWord.le_of_mem {digits : List Char} {n : Nat} (h : IsHexWord digits n) :
    ∀ x ∈ digits, ' ' ≤ x := by
  intro x hx
  have hdigit := h.all x hx
  simp only [isHexDigit, Bool.or_eq_true, Bool.and_eq_true, decide_eq_true_eq] at hdigit
  rcases hdigit with (⟨hx, -⟩ | ⟨hx, -⟩) | ⟨hx, -⟩
  · exact Char.le_trans (by decide) hx
  · exact Char.le_trans (by decide) hx
  · exact Char.le_trans (by decide) hx

/-- However a character is spelled, there is no control character in it. -/
theorem Spells.le_of_mem {s : List Char} {c : Char} (h : Spells s c) : ∀ x ∈ s, ' ' ≤ x := by
  cases h with
  | plain hc => simpa using hc
  | @short letter _ h =>
    have hall : ∀ p ∈ shortEscapes, ' ' ≤ p.1 := by decide
    simp only [List.forall_mem_cons]
    exact ⟨by decide, hall _ h, nofun⟩
  | code h =>
    simp only [List.forall_mem_cons]
    exact ⟨by decide, by decide, h.le_of_mem⟩
  | pair hfirst _ hsecond =>
    simp only [List.forall_mem_cons, List.forall_mem_append]
    exact ⟨by decide, by decide, hfirst.le_of_mem, by decide, by decide, hsecond.le_of_mem⟩

theorem SpellsAll.le_of_mem {s cs : List Char} (h : SpellsAll s cs) : ∀ x ∈ s, ' ' ≤ x := by
  induction h with
  | nil => exact nofun
  | cons hc _ ih => exact List.forall_mem_append.mpr ⟨hc.le_of_mem, ih⟩

theorem Quotes.le_of_mem {s : List Char} {text : String} (h : Quotes s text) :
    ∀ x ∈ s, ' ' ≤ x := by
  obtain ⟨inner, rfl, hinner⟩ := h
  simp only [List.forall_mem_cons, List.forall_mem_append]
  exact ⟨by decide, hinner.le_of_mem, by decide, nofun⟩

/-- **An object of strings is written without control characters.** -/
theorem le_of_mem_writeTexts (members : List (String × String)) :
    ∀ x ∈ (writeTexts members).toList, ' ' ≤ x := by
  have htext : ∀ m : String × String, ∀ x ∈ (plainMember m).text, ' ' ≤ x := by
    intro m
    simp only [plainMember, MemberText.text, List.nil_append, List.forall_mem_append,
      List.forall_mem_cons]
    exact ⟨(quotes_writeText m.1).le_of_mem, by decide, (quotes_writeText m.2).le_of_mem⟩
  have hlist : ∀ x ∈ commaList ((members.map plainMember).map MemberText.text), ' ' ≤ x := by
    induction members with
    | nil => exact List.forall_mem_nil _
    | cons m members ih =>
      cases members with
      | nil =>
        rw [List.map_singleton, List.map_singleton, commaList_singleton]
        exact htext m
      | cons m' members =>
        rw [List.map_cons, List.map_cons, List.map_cons, List.map_cons, commaList_cons_cons,
          List.forall_mem_append, List.forall_mem_cons]
        exact ⟨htext m, by decide, ih⟩
  rw [toList_writeTexts, List.forall_mem_cons, List.forall_mem_append, List.forall_mem_singleton]
  exact ⟨by decide, hlist, by decide⟩

end IbanWatch.Json
