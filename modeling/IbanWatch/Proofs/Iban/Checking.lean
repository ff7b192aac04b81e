import IbanWatch.Proofs.Iban.Layout

/-!
# What a check finds

A candidate is put into normal form, and then the rules are asked one after another: whether
anything is left, whether it begins with the country code, whether it has the right length, whether
every character is of the kind laid down for its place, and whether the number leaves remainder one.
The first rule that is broken is reported, with what is needed to see that it is.

The rules are said here without the check: an identifier is valid when it is put together from its
parts and its number leaves remainder one, and a defect is told by the rules in front of it, which
hold, and its own, which does not.  Every candidate is valid or breaks some rule first, and since
the check has one answer, it is never both.

## Main definitions

* `IsValid` — what a valid identifier is.
* `Breaks` — the first rule that a candidate in normal form breaks.
* `ChecksInOrder` — everything that a check says of a candidate.

## Main results

* `check_eq` — the check, said of characters and natural numbers.
* `isValid_or_breaks` — every candidate is valid or breaks some rule first.
* `check_eq_ok_iff`, `check_eq_error_iff` — when the check succeeds, and when it names a defect.
* `checksInOrder` — **a check succeeds for valid identifiers and else names the first broken rule**.
-/

namespace IbanWatch.Iban

open Text

/-- The identifier in normal form is valid: the country code, two check digits, four letters of the
bank and sixteen letters or digits of the account, with a number that leaves remainder one. -/
def IsValid (n : List Char) : Prop :=
  (∃ check bank account, IsLaidOut n check bank account) ∧ number n % 97 = 1

namespace IsValid

variable {n : List Char}

theorem length (h : IsValid n) : n.length = 24 := by
  obtain ⟨⟨check, bank, account, hlaid⟩, -⟩ := h
  exact hlaid.length

theorem isSymbol (h : IsValid n) : ∀ c ∈ n, IsSymbol c := by
  obtain ⟨⟨check, bank, account, hlaid⟩, -⟩ := h
  exact hlaid.isSymbol

end IsValid

/-- The first rule that a candidate in normal form breaks. -/
inductive Breaks (n : List Char) : Defect → Prop where
  /-- Nothing is left of it. -/
  | empty (h : n = []) : Breaks n .empty
  /-- Something is left, but it does not begin with the country code. -/
  | wrongCountry (h : n ≠ []) (hcountry : ¬ country <+: n) : Breaks n .wrongCountry
  /-- It begins with the country code and is too short or too long. -/
  | wrongLength (hcountry : country <+: n) (hlength : n.length ≠ 24) :
      Breaks n (.wrongLength n.length)
  /-- It has the right length, and here is the first character that is misplaced. -/
  | malformed {position : Nat} {found : Char} (hcountry : country <+: n) (hlength : n.length = 24)
      (hfound : n[position]? = some found) (hmisplaced : Misplaced position found)
      (hfirst : ∀ earlier < position, ∀ c, n[earlier]? = some c → ¬ Misplaced earlier c) :
      Breaks n (.malformed position found)
  /-- It is laid out well, and its number leaves another remainder than one. -/
  | checksum {check bank account : List Char} (h : IsLaidOut n check bank account)
      (hremainder : number n % 97 ≠ 1) : Breaks n (.checksum (number n % 97))

theorem Breaks.remainder {n : List Char} {r : Nat} (h : Breaks n (.checksum r)) :
    r < 97 ∧ r ≠ 1 := by
  cases h with
  | checksum hlaid hremainder => exact ⟨Nat.mod_lt _ (by decide), hremainder⟩

/-! ### The answer of the check -/

theorem toList_normalize (s : String) :
    (normalize s).toList = (s.toList.filter fun c => !isBlank c).map Char.toUpper := by
  rw [normalize, String.toList_ofList]

/-- What is left when the rules before the last one hold: the number decides. -/
def numberAnswer (n : List Char) : Except Defect Unit :=
  if number n % 97 = 1 then .ok () else .error (.checksum (number n % 97))

/-- **The check, said of characters and of the number** that they spell: the words and bytes in
which the remainder is taken make no difference. -/
theorem check_eq (s : String) : check s =
    if (normalize s).toList = [] then .error .empty
    else if ¬ country <+: (normalize s).toList then .error .wrongCountry
    else if (normalize s).toList.length ≠ 24 then .error (.wrongLength (normalize s).toList.length)
    else match firstMisplaced? (normalize s).toList with
      | some (position, found) => .error (.malformed position found)
      | none => numberAnswer (normalize s).toList := by
  have hutf8 : utf8 (normalize s) = utf8 (String.ofList (normalize s).toList) := by
    rw [String.ofList_toList]
  simp only [check, hutf8, List.isEmpty_iff, Bool.not_eq_true', ← Bool.not_eq_true,
    List.isPrefixOf_iff_prefix]
  generalize (normalize s).toList = n
  by_cases hempty : n = []
  · rw [if_pos hempty, if_pos hempty]
  rw [if_neg hempty, if_neg hempty]
  by_cases hcountry : country <+: n
  swap
  · rw [if_pos hcountry, if_pos hcountry]
  rw [if_neg (not_not_intro hcountry), if_neg (not_not_intro hcountry)]
  by_cases hlength : n.length = 24
  swap
  · exact (if_pos hlength).trans (if_pos hlength).symm
  refine (if_neg (not_not_intro hlength)).trans (Eq.trans ?_ (if_neg (not_not_intro hlength)).symm)
  -- Letters and digits are single bytes, so the words and bytes spell the number of the characters.
  cases hfirst : firstMisplaced? n with
  | some found => rfl
  | none =>
    have hallowed := firstMisplaced?_eq_none_iff.mp hfirst
    obtain ⟨check, bank, account, hlaid⟩ := exists_isLaidOut_iff.mpr ⟨hcountry, hlength, hallowed⟩
    have hremainder : (remainder97 (spell (utf8 (String.ofList n)))).toNat = number n % 97 := by
      rw [toNat_remainder97 (spell_utf8 hlaid.isSymbol).2, value_spell hlaid.isSymbol]
    have hone : remainder97 (spell (utf8 (String.ofList n))) = 1 ↔ number n % 97 = 1 := by
      rw [← UInt64.toNat_inj, hremainder]
      rfl
    simp only [numberAnswer, hone, hremainder]

theorem check_of_isLaidOut {s : String} {check bank account : List Char}
    (h : IsLaidOut (normalize s).toList check bank account) :
    Iban.check s = numberAnswer (normalize s).toList := by
  have hlength : (normalize s).toList.length = 24 := h.length
  rw [check_eq, if_neg (ne_nil_of_isPrefix h.isPrefix), if_neg (not_not_intro h.isPrefix),
    if_neg (not_not_intro hlength), firstMisplaced?_eq_none_iff.mpr h.allowedAt]

/-- The check succeeds for a valid identifier. -/
theorem check_of_isValid {s : String} (h : IsValid (normalize s).toList) : check s = .ok () := by
  obtain ⟨⟨check, bank, account, hlaid⟩, hremainder⟩ := h
  rw [check_of_isLaidOut hlaid, numberAnswer, if_pos hremainder]

/-- The check names the first rule that is broken. -/
theorem check_of_breaks {s : String} {defect : Defect} (h : Breaks (normalize s).toList defect) :
    check s = .error defect := by
  cases h with
  | empty hnil => rw [check_eq, if_pos hnil]
  | wrongCountry hne hcountry => rw [check_eq, if_neg hne, if_pos hcountry]
  | wrongLength hcountry hlength =>
    rw [check_eq, if_neg (ne_nil_of_isPrefix hcountry), if_neg (not_not_intro hcountry),
      if_pos hlength]
  | @malformed position found hcountry hlength hfound hmisplaced hfirst =>
    -- The search comes to this place, since it finds nothing wrong before it.
    have hsearch : firstMisplaced? (normalize s).toList = some (position, found) := by
      refine firstMisplaced?_eq_some_iff.mpr ⟨hfound, ?_, ?_⟩
      · exact (misplaced_iff_of_getElem? hlength hfound).mp hmisplaced
      · intro earlier hearlier c hc
        have hnot := hfirst earlier hearlier c hc
        rwa [misplaced_iff_of_getElem? hlength hc, Bool.not_eq_false] at hnot
    rw [check_eq, if_neg (ne_nil_of_isPrefix hcountry), if_neg (not_not_intro hcountry),
      if_neg (not_not_intro hlength), hsearch]
  | checksum hlaid hremainder =>
    rw [check_of_isLaidOut hlaid, numberAnswer, if_neg hremainder]

/-- **Every candidate is valid or breaks some rule first.** -/
theorem isValid_or_breaks (n : List Char) : IsValid n ∨ ∃ defect, Breaks n defect := by
  by_cases hempty : n = []
  · exact .inr ⟨_, .empty hempty⟩
  by_cases hcountry : country <+: n
  swap
  · exact .inr ⟨_, .wrongCountry hempty hcountry⟩
  by_cases hlength : n.length = 24
  swap
  · exact .inr ⟨_, .wrongLength hcountry hlength⟩
  cases hfirst : firstMisplaced? n with
  | some found =>
    -- The search names the first place, as the rule asks for.
    obtain ⟨position, c⟩ := found
    obtain ⟨hfound, hrefused, hearlier⟩ := firstMisplaced?_eq_some_iff.mp hfirst
    refine .inr ⟨_, .malformed hcountry hlength hfound
      ((misplaced_iff_of_getElem? hlength hfound).mpr hrefused) ?_⟩
    intro earlier hlt d hd
    rw [misplaced_iff_of_getElem? hlength hd, hearlier earlier hlt d hd]
    decide
  | none =>
    obtain ⟨check, bank, account, hlaid⟩ := exists_isLaidOut_iff.mpr
      ⟨hcountry, hlength, firstMisplaced?_eq_none_iff.mp hfirst⟩
    -- Nothing is misplaced, so it is laid out well and only the remainder is left.
    by_cases hremainder : number n % 97 = 1
    · exact .inl ⟨⟨check, bank, account, hlaid⟩, hremainder⟩
    · exact .inr ⟨_, .checksum hlaid hremainder⟩

/-- A valid identifier breaks no rule, since the check has one answer. -/
theorem check_eq_ok_iff (s : String) : check s = .ok () ↔ IsValid (normalize s).toList := by
  refine ⟨fun hok => ?_, check_of_isValid⟩
  rcases isValid_or_breaks (normalize s).toList with hvalid | ⟨defect, hbreaks⟩
  · exact hvalid
  · rw [check_of_breaks hbreaks] at hok
    cases hok

/-- Only the first rule that is broken is named. -/
theorem check_eq_error_iff (s : String) (defect : Defect) :
    check s = .error defect ↔ Breaks (normalize s).toList defect := by
  refine ⟨fun herror => ?_, check_of_breaks⟩
  rcases isValid_or_breaks (normalize s).toList with hvalid | ⟨found, hbreaks⟩
  · rw [check_of_isValid hvalid] at herror
    cases herror
  · rw [check_of_breaks hbreaks] at herror
    cases herror
    exact hbreaks

theorem validate_eq_true_iff (s : String) : validate s = true ↔ IsValid (normalize s).toList := by
  rw [← check_eq_ok_iff, validate]
  cases check s with
  | ok _ => exact iff_of_true rfl rfl
  | error _ => exact iff_of_false Bool.false_ne_true nofun

theorem validate_of_error {s : String} {defect : Defect} (h : check s = .error defect) :
    validate s = false := by
  rw [validate, h]

/-! ### Everything together -/

/-- Everything that a check says of a candidate. -/
structure ChecksInOrder (s : String) : Prop where
  /-- The candidate is checked without its white space, with ASCII letters in upper case. -/
  form : (normalize s).toList = (s.toList.filter fun c => !isBlank c).map Char.toUpper
  /-- The check succeeds for valid identifiers, and for no others. -/
  ok : check s = .ok () ↔ IsValid (normalize s).toList
  /-- Else it names the first rule that is broken. -/
  error : ∀ defect, check s = .error defect ↔ Breaks (normalize s).toList defect
  /-- A remainder is reported as it is, below 97. -/
  remainder : ∀ r, check s = .error (.checksum r) → r < 97 ∧ r ≠ 1
  /-- A candidate is valid when the check succeeds. -/
  validate : validate s = true ↔ IsValid (normalize s).toList
  /-- It makes no difference that a candidate might be missing. -/
  validateOpt : validateOpt (some s) = Iban.validate s
  /-- A candidate that is missing is not valid. -/
  missing : Iban.validateOpt none = false

/-- **A check succeeds for valid identifiers and else names the first rule that is broken.** -/
theorem checksInOrder (s : String) : ChecksInOrder s := by
  refine ⟨toList_normalize s, check_eq_ok_iff s, check_eq_error_iff s, ?_, ?_, rfl, rfl⟩
  · intro r h
    exact ((check_eq_error_iff s _).mp h).remainder
  · rw [← check_eq_ok_iff, Iban.validate]
    cases check s with
    | ok u => exact iff_of_true rfl rfl
    | error found => exact iff_of_false Bool.false_ne_true nofun

/-- Each rule is the first that is broken by some candidate. -/
example : check " " = .error .empty ∧ check "ö" = .error .wrongCountry
    ∧ check "ro\u00a049" = .error (.wrongLength 4)
    ∧ check "RO49AAAA1B310075938400é0" = .error (.malformed 22 'é')
    ∧ check "RO49AAAA1B31007593840001" = .error (.checksum 28) := by
  decide +kernel

end IbanWatch.Iban
