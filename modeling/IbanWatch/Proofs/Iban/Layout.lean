import IbanWatch.Proofs.Iban.Remainder
import IbanWatch.Proofs.Text.Encoding
import IbanWatch.Text.Numeral
import Mathlib.Tactic.IntervalCases

/-!
# The layout of an identifier, and the number it spells

An identifier in normal form has twenty-four places, and for each place it is laid down whether a
letter, a digit or either stands there.  What stands in an identifier that keeps to this layout is
one byte a character.  So the digits that are spelled byte by byte are those of the numeral that is
written when the first four characters go to the end and each letter is replaced by its value.

## Main definitions

* `Kind`, `layout` — what stands at a place, and at all places of an identifier.
* `Misplaced` — the character is not of the kind that is laid down for the place.
* `IsLaidOut` — the country code, check digits, bank and account, one behind another.
* `symbolValue`, `spelled`, `number` — the value of a letter or digit, the numeral that a row of
  them spells, and the number of an identifier.

## Main results

* `misplaced_iff` — where `allowedAt` refuses a character.
* `firstMisplaced?_eq_some_iff`, `firstMisplaced?_eq_none_iff` — what is found by the search.
* `exists_isLaidOut_iff` — an identifier of the right length without a misplaced character is put
  together from its parts.
* `value_spell` — **the digits that are spelled make up the number**.
-/

namespace IbanWatch.Iban

open Text

/-! ### Letters and digits -/

/-- The character is a letter from `A` to `Z` or a digit. -/
def IsSymbol (c : Char) : Prop := isDigit c = true ∨ isCapital c = true

theorem isDigit_iff {c : Char} : isDigit c = true ↔ 48 ≤ c.toNat ∧ c.toNat ≤ 57 := by
  simp only [isDigit, Bool.and_eq_true, decide_eq_true_eq]
  exact Iff.rfl

theorem isCapital_iff {c : Char} : isCapital c = true ↔ 65 ≤ c.toNat ∧ c.toNat ≤ 90 := by
  simp only [isCapital, Bool.and_eq_true, decide_eq_true_eq]
  exact Iff.rfl

/-- All letters and digits. -/
def symbols : List Char := "0123456789ABCDEFGHIJKLMNOPQRSTUVWXYZ".toList

theorem mem_symbols {c : Char} (h : IsSymbol c) : c ∈ symbols := by
  rw [IsSymbol, isDigit_iff, isCapital_iff] at h
  rw [← Char.ofNat_toNat c]
  generalize c.toNat = n at h ⊢
  rcases h with ⟨hlow, hhigh⟩ | ⟨hlow, hhigh⟩
  · interval_cases n <;> decide
  · interval_cases n <;> decide

/-- The value of a letter or digit: a digit counts as itself, and the letters go on from ten. -/
def symbolValue (c : Char) : Nat := if isDigit c then c.toNat - 48 else c.toNat - 55

/-- The decimal numeral that is written when each letter is replaced by its value. -/
def spelled (cs : List Char) : List Char := cs.flatMap fun c => Nat.toDigits 10 (symbolValue c)

theorem spelled_cons (c : Char) (cs : List Char) :
    spelled (c :: cs) = Nat.toDigits 10 (symbolValue c) ++ spelled cs := rfl

/-- The number of an identifier in normal form: its first four characters go to the end, and each
letter is replaced by its value. -/
def number (n : List Char) : Nat := numeralValue 10 (spelled (n.drop 4 ++ n.take 4))

example : spelled ['R', 'O', '4', '9'] = "272449".toList := by decide

/-- What is checked once for every letter and digit: its byte spells the digits of its value. -/
theorem spellByte_of_isSymbol {c : Char} (h : IsSymbol c) : c.toNat < 128
    ∧ (spellByte (UInt8.ofNat c.toNat)).map UInt8.toNat
      = (Nat.toDigits 10 (symbolValue c)).map digitValue
    ∧ ∀ d ∈ spellByte (UInt8.ofNat c.toNat), d.toNat ≤ 9 := by
  have hall : (symbols.all fun c => decide (c.toNat < 128)
      && decide ((spellByte (UInt8.ofNat c.toNat)).map UInt8.toNat
        = (Nat.toDigits 10 (symbolValue c)).map digitValue)
      && (spellByte (UInt8.ofNat c.toNat)).all fun d => d.toNat ≤ 9) = true := by
    decide +kernel
  have hc := List.all_eq_true.mp hall c (mem_symbols h)
  simp only [Bool.and_eq_true, decide_eq_true_eq, List.all_eq_true] at hc
  exact ⟨hc.1.1, hc.1.2, hc.2⟩

/-! ### The number -/

/-- Letters and digits are one byte each. -/
theorem utf8_of_isSymbol {n : List Char} (h : ∀ c ∈ n, IsSymbol c) :
    utf8 (String.ofList n) = n.map fun c => UInt8.ofNat c.toNat := by
  rw [utf8_ofList]
  induction n with
  | nil => rfl
  | cons c n ih =>
    rw [List.forall_mem_cons] at h
    rw [encoded_cons_of_lt (spellByte_of_isSymbol h.1).1, ih h.2, List.map_cons]

/-- The bytes of letters and digits spell, one after another, the digits of their numeral. -/
theorem flatMap_spellByte {n : List Char} (h : ∀ c ∈ n, IsSymbol c) :
    ((n.map fun c => UInt8.ofNat c.toNat).flatMap spellByte).map UInt8.toNat
        = (spelled n).map digitValue
      ∧ ∀ d ∈ (n.map fun c => UInt8.ofNat c.toNat).flatMap spellByte, d.toNat ≤ 9 := by
  induction n with
  | nil => exact ⟨rfl, nofun⟩
  | cons c n ih =>
    rw [List.forall_mem_cons] at h
    obtain ⟨-, hdigits, hle⟩ := spellByte_of_isSymbol h.1
    obtain ⟨ihdigits, ihle⟩ := ih h.2
    constructor
    · rw [List.map_cons, List.flatMap_cons, List.map_append, hdigits, ihdigits, spelled_cons,
        List.map_append]
    · intro d hd
      rw [List.map_cons, List.flatMap_cons, List.mem_append] at hd
      rcases hd with hd | hd
      · exact hle d hd
      · exact ihle d hd

theorem spell_utf8 {n : List Char} (h : ∀ c ∈ n, IsSymbol c) :
    (spell (utf8 (String.ofList n))).map UInt8.toNat
        = (spelled (n.drop 4 ++ n.take 4)).map digitValue
      ∧ ∀ d ∈ spell (utf8 (String.ofList n)), d.toNat ≤ 9 := by
  have hrotated : ∀ c ∈ n.drop 4 ++ n.take 4, IsSymbol c := by
    intro c hc
    rcases List.mem_append.mp hc with hc | hc
    · exact h c (List.mem_of_mem_drop hc)
    · exact h c (List.mem_of_mem_take hc)
  rw [spell, utf8_of_isSymbol h, ← List.map_drop, ← List.map_take, ← List.map_append]
  exact flatMap_spellByte hrotated

/-- **The digits that are spelled make up the number** of the identifier. -/
theorem value_spell {n : List Char} (h : ∀ c ∈ n, IsSymbol c) :
    value (spell (utf8 (String.ofList n))) = number n := by
  have hvalue : ∀ ds : List UInt8,
      value ds = (ds.map UInt8.toNat).foldl (fun n d => n * 10 + d) 0 := by
    intro ds
    rw [value, valueFrom, List.foldl_map]
  have hnumber : ∀ cs : List Char,
      numeralValue 10 cs = (cs.map digitValue).foldl (fun n d => n * 10 + d) 0 := by
    intro cs
    rw [numeralValue, List.foldl_map]
  rw [hvalue, (spell_utf8 h).1, number, hnumber]

/-! ### Places -/

/-- What stands at a place. -/
inductive Kind where
  /-- A letter from `A` to `Z`. -/
  | letter
  /-- A digit. -/
  | digit
  /-- A letter or a digit. -/
  | either
  deriving DecidableEq, Repr

/-- The character is of this kind. -/
def Kind.Admits : Kind → Char → Prop
  | .letter, c => isCapital c = true
  | .digit, c => isDigit c = true
  | .either, c => IsSymbol c

/-- What is laid down for the places of an identifier: two letters of the country, two check digits,
four letters of the bank and sixteen letters or digits of the account. -/
def layout : List Kind :=
  List.replicate 2 .letter ++ List.replicate 2 .digit ++ List.replicate 4 .letter
    ++ List.replicate 16 .either

/-- The character is not of the kind that is laid down for the place. -/
def Misplaced (position : Nat) (c : Char) : Prop :=
  ∃ kind, layout[position]? = some kind ∧ ¬ kind.Admits c

/-- **Where a character is refused**: at the places for which another kind is laid down. -/
theorem misplaced_iff {position : Nat} (h : position < length) (c : Char) :
    Misplaced position c ↔ allowedAt position c = false := by
  have hkind : ∀ kind, layout[position]? = some kind →
      (kind.Admits c ↔ allowedAt position c = true) := by
    intro kind hkind
    rw [length] at h
    interval_cases position <;> cases hkind <;> simp [Kind.Admits, allowedAt, IsSymbol]
  obtain ⟨kind, hlayout⟩ : ∃ kind, layout[position]? = some kind :=
    ⟨_, List.getElem?_eq_getElem h⟩
  rw [← Bool.not_eq_true, ← hkind kind hlayout]
  constructor
  · rintro ⟨kind', hkind', hc⟩
    rw [hlayout] at hkind'
    cases hkind'
    exact hc
  · exact fun hc => ⟨kind, hlayout, hc⟩

/-- At the places of an identifier, `Misplaced` is what `allowedAt` refuses. -/
theorem misplaced_iff_of_getElem? {n : List Char} (hlength : n.length = 24) {position : Nat}
    {c : Char} (hc : n[position]? = some c) :
    Misplaced position c ↔ allowedAt position c = false := by
  obtain ⟨hlt, -⟩ := List.getElem?_eq_some_iff.mp hc
  rw [hlength] at hlt
  exact misplaced_iff hlt c

/-- A character that is not misplaced is a letter or a digit. -/
theorem isSymbol_of_not_misplaced {position : Nat} (h : position < length) {c : Char}
    (hc : ¬ Misplaced position c) : IsSymbol c := by
  rw [misplaced_iff h, Bool.not_eq_false, allowedAt] at hc
  split at hc
  · exact .inr hc
  split at hc
  · exact .inl hc
  split at hc
  · exact .inr hc
  · exact (Bool.or_eq_true _ _).mp hc

/-! ### The search for a misplaced character -/

/-- **What the search finds**: the first place whose character is refused, with that character. -/
theorem firstMisplaced?_eq_some_iff {n : List Char} {position : Nat} {c : Char} :
    firstMisplaced? n = some (position, c) ↔ n[position]? = some c
      ∧ allowedAt position c = false
      ∧ ∀ earlier < position, ∀ d, n[earlier]? = some d → allowedAt earlier d = true := by
  simp only [firstMisplaced?, Option.map_eq_some_iff, List.find?_eq_some_iff_getElem,
    Prod.exists, Prod.mk.injEq, List.getElem_zipIdx, Bool.not_eq_true', List.length_zipIdx,
    List.getElem?_eq_some_iff]
  constructor
  · rintro ⟨c', p, ⟨hbad, i, hi, ⟨rfl, rfl⟩, hearlier⟩, hp, rfl⟩
    rw [Nat.zero_add] at hp hbad
    subst hp
    refine ⟨⟨hi, rfl⟩, hbad, ?_⟩
    rintro q hq d ⟨hlt, rfl⟩
    simpa using hearlier q hq
  · rintro ⟨⟨hi, rfl⟩, hbad, hearlier⟩
    refine ⟨_, position, ⟨hbad, position, hi, ⟨rfl, Nat.zero_add _⟩, ?_⟩, rfl, rfl⟩
    intro q hq
    simpa using hearlier q hq _ ⟨by omega, rfl⟩

/-- The search finds nothing if no character is refused. -/
theorem firstMisplaced?_eq_none_iff {n : List Char} :
    firstMisplaced? n = none
      ↔ ∀ position c, n[position]? = some c → allowedAt position c = true := by
  simp only [firstMisplaced?, Option.map_eq_none_iff, List.find?_eq_none, Prod.forall,
    List.mem_zipIdx_iff_getElem?, Bool.not_eq_true', Bool.not_eq_false]
  exact ⟨fun h position c hc => h c position hc, fun h c position hc => h position c hc⟩

/-! ### The parts -/

theorem ne_nil_of_isPrefix {n : List Char} (h : country <+: n) : n ≠ [] := by
  rintro rfl
  exact absurd (List.prefix_nil.mp h) (by decide)

/-- An identifier in normal form, put together from its parts. -/
structure IsLaidOut (n check bank account : List Char) : Prop where
  /-- The country code comes first, and the parts follow it in their order. -/
  parts : n = country ++ (check ++ (bank ++ account))
  /-- There are two check digits. -/
  check : check.length = 2 ∧ ∀ c ∈ check, isDigit c = true
  /-- The bank has four letters. -/
  bank : bank.length = 4 ∧ ∀ c ∈ bank, isCapital c = true
  /-- The account has sixteen letters or digits. -/
  account : account.length = 16 ∧ ∀ c ∈ account, IsSymbol c

/-- What stands at a place of a row lies in the part in front or in what follows it. -/
theorem getElem?_append_cases {front rest : List Char} {position : Nat} {c : Char}
    (h : (front ++ rest)[position]? = some c) :
    (position < front.length ∧ c ∈ front)
      ∨ (front.length ≤ position ∧ rest[position - front.length]? = some c) := by
  rcases Nat.lt_or_ge position front.length with hlt | hge
  · rw [List.getElem?_append_left hlt] at h
    exact .inl ⟨hlt, List.mem_of_getElem? h⟩
  · rw [List.getElem?_append_right hge] at h
    exact .inr ⟨hge, h⟩

/-- A character of a stretch stands at one of its places. -/
theorem exists_getElem?_of_mem {n : List Char} {start count : Nat} {c : Char}
    (h : c ∈ (n.drop start).take count) :
    ∃ position, start ≤ position ∧ position < start + count ∧ n[position]? = some c := by
  obtain ⟨i, hi⟩ := List.mem_iff_getElem?.mp h
  rw [List.getElem?_take] at hi
  split at hi
  · next hlt =>
    rw [List.getElem?_drop] at hi
    exact ⟨start + i, by omega, by omega, hi⟩
  · cases hi

namespace IsLaidOut

variable {n check bank account : List Char}

theorem length (h : IsLaidOut n check bank account) : n.length = Iban.length := by
  rw [h.parts, List.length_append, List.length_append, List.length_append, h.check.1, h.bank.1,
    h.account.1]
  rfl

theorem isPrefix (h : IsLaidOut n check bank account) : country <+: n := ⟨_, h.parts.symm⟩

/-- Nothing is misplaced. -/
theorem allowedAt (h : IsLaidOut n check bank account) (position : Nat) (c : Char)
    (hc : n[position]? = some c) : Iban.allowedAt position c = true := by
  rw [h.parts] at hc
  -- The place lies in one of the four parts, whose lengths say which kind is laid down for it.
  rcases getElem?_append_cases hc with ⟨hlt, hmem⟩ | ⟨hge, hc⟩
  · have hcapital : ∀ d ∈ country, isCapital d = true := List.all_eq_true.mp (by decide)
    rw [show country.length = 2 from rfl] at hlt
    rw [Iban.allowedAt, if_pos hlt]
    exact hcapital c hmem
  rw [show country.length = 2 from rfl] at hge hc
  rcases getElem?_append_cases hc with ⟨hlt, hmem⟩ | ⟨hge', hc⟩
  · rw [h.check.1] at hlt
    rw [Iban.allowedAt, if_neg (by omega), if_pos (by omega)]
    exact h.check.2 c hmem
  rw [h.check.1] at hge' hc
  rcases getElem?_append_cases hc with ⟨hlt, hmem⟩ | ⟨hge'', hc⟩
  · rw [h.bank.1] at hlt
    rw [Iban.allowedAt, if_neg (by omega), if_neg (by omega), if_pos (by omega)]
    exact h.bank.2 c hmem
  · rw [h.bank.1] at hge''
    rw [Iban.allowedAt, if_neg (by omega), if_neg (by omega), if_neg (by omega), Bool.or_eq_true]
    exact h.account.2 c (List.mem_of_getElem? hc)

end IsLaidOut

/-- **An identifier is put together from its parts** just when it begins with the country code, has
the right length and no misplaced character. -/
theorem exists_isLaidOut_iff {n : List Char} :
    (∃ check bank account, IsLaidOut n check bank account) ↔ country <+: n ∧ n.length = length
      ∧ ∀ position c, n[position]? = some c → allowedAt position c = true := by
  constructor
  · rintro ⟨check, bank, account, h⟩
    exact ⟨⟨_, h.parts.symm⟩, h.length, h.allowedAt⟩
  · rintro ⟨⟨rest, rfl⟩, hlength, hallowed⟩
    have hrest : rest.length = 22 := by
      rw [List.length_append] at hlength
      exact Nat.add_left_cancel hlength
    -- Behind the country code the places are counted from two.
    have hplace : ∀ position c, rest[position]? = some c → allowedAt (position + 2) c = true :=
      fun position c hc => hallowed (position + 2) c hc
    refine ⟨rest.take 2, (rest.drop 2).take 4, (rest.drop 2).drop 4, ?_, ⟨?_, ?_⟩, ⟨?_, ?_⟩,
      ⟨?_, ?_⟩⟩
    · rw [List.take_append_drop, List.take_append_drop]
    · rw [List.length_take]
      omega
    · intro c hc
      have hc : c ∈ (rest.drop 0).take 2 := hc
      obtain ⟨i, -, hi, hci⟩ := exists_getElem?_of_mem hc
      have := hplace i c hci
      rwa [allowedAt, if_neg (by omega), if_pos (by omega)] at this
    · rw [List.length_take, List.length_drop]
      omega
    · intro c hc
      obtain ⟨i, hlow, hi, hci⟩ := exists_getElem?_of_mem hc
      have := hplace i c hci
      rwa [allowedAt, if_neg (by omega), if_neg (by omega), if_pos (by omega)] at this
    · rw [List.length_drop, List.length_drop]
      omega
    · intro c hc
      rw [List.drop_drop] at hc
      obtain ⟨i, hi⟩ := List.mem_iff_getElem?.mp hc
      rw [List.getElem?_drop] at hi
      have := hplace _ c hi
      rwa [allowedAt, if_neg (by omega), if_neg (by omega), if_neg (by omega),
        Bool.or_eq_true] at this

/-- What is laid out consists of letters and digits. -/
theorem IsLaidOut.isSymbol {n check bank account : List Char}
    (h : IsLaidOut n check bank account) : ∀ c ∈ n, IsSymbol c := by
  intro c hc
  obtain ⟨position, hposition⟩ := List.mem_iff_getElem?.mp hc
  obtain ⟨hlt, -⟩ := List.getElem?_eq_some_iff.mp hposition
  rw [h.length] at hlt
  refine isSymbol_of_not_misplaced hlt ?_
  rw [misplaced_iff hlt, h.allowedAt position c hposition]
  decide

end IbanWatch.Iban
