import IbanWatch.Proofs.Iban.NormalForm
import IbanWatch.Proofs.Iban.Weights

/-!
# Slips in a valid identifier

Two slips are made when an identifier is copied: one character is replaced by another one of its
kind, or two neighbours change places.  The check digits are there to notice them.

One replaced character is always noticed: two values below 97 are different modulo 97.  Two digits
or two letters that change places are noticed as well, since their difference is then multiplied by
9 or by 99.  But a digit `a` and a letter of value `b` spell `100 * a + b` in one order and
`10 * b + a` in the other, and the difference of these is 9 times that of `11 * a` and `b`.  So an
exchange is overlooked where the letter is worth eleven times the digit: `1` and `B`, `2` and `M`,
`3` and `X`.  A letter and a digit can change places only in the account, as everywhere else one of
them would be misplaced.

## Main definitions

* `SameClass` — both are digits, or both are letters.
* `Confusable` — the letter is worth eleven times the digit.
* `replaceAt` — a text with another character at one of its places.

## Main results

* `number_substituted_iff` — a replaced character always changes the remainder.
* `worth_exchanged_iff`, `number_exchanged_iff` — which exchanges leave the remainder as it is.
* `check_substituted` — **no replaced character is overlooked**.
* `validate_exchanged` — **exchanged neighbours are overlooked for three pairs, in the account**.
-/

namespace IbanWatch.Iban

open Text

/-! ### Characters of one class -/

/-- Both characters are digits, or both are letters from `A` to `Z`. -/
def SameClass (c d : Char) : Prop :=
  (isDigit c = true ∧ isDigit d = true) ∨ (isCapital c = true ∧ isCapital d = true)

namespace SameClass

variable {c d : Char}

theorem isSymbol (h : SameClass c d) : IsSymbol c ∧ IsSymbol d := by
  rcases h with ⟨hc, hd⟩ | ⟨hc, hd⟩
  · exact ⟨.inl hc, .inl hd⟩
  · exact ⟨.inr hc, .inr hd⟩

theorem width_eq (h : SameClass c d) : width [c] = width [d] := by
  rcases h with ⟨hc, hd⟩ | ⟨hc, hd⟩
  · rw [width_of_isDigit hc, width_of_isDigit hd]
  · rw [width_of_isCapital hc, width_of_isCapital hd]

/-- The layout admits the one wherever it admits the other. -/
theorem allowedAt_eq (h : SameClass c d) (position : Nat) :
    allowedAt position c = allowedAt position d := by
  rcases h with ⟨hc, hd⟩ | ⟨hc, hd⟩
  · simp only [allowedAt, hc, hd, isCapital_of_isDigit hc, isCapital_of_isDigit hd]
  · simp only [allowedAt, hc, hd, isDigit_of_isCapital hc, isDigit_of_isCapital hd]

end SameClass

/-- In front of the account the layout leaves no choice between digits and letters. -/
theorem sameClass_of_allowedAt {position : Nat} (h : position < 8) {c d : Char}
    (hc : allowedAt position c = true) (hd : allowedAt position d = true) : SameClass c d := by
  unfold allowedAt at hc hd
  by_cases hcountry : position < 2
  · rw [if_pos hcountry] at hc hd
    exact .inr ⟨hc, hd⟩
  rw [if_neg hcountry] at hc hd
  by_cases hcheck : position < 4
  · rw [if_pos hcheck] at hc hd
    exact .inl ⟨hc, hd⟩
  · rw [if_neg hcheck, if_pos h] at hc hd
    exact .inr ⟨hc, hd⟩

/-- In the account the layout admits every letter and digit. -/
theorem allowedAt_of_isSymbol {position : Nat} (h : 8 ≤ position) {c : Char} (hc : IsSymbol c) :
    allowedAt position c = true := by
  rw [allowedAt, if_neg (by omega), if_neg (by omega), if_neg (by omega), Bool.or_eq_true]
  exact hc

/-! ### A character in its place -/

/-- A row that is laid out well stays so when another character that is admitted takes a place
behind the country code. -/
theorem exists_isLaidOut_replaced {front rest : List Char} {c d : Char}
    (h : ∃ check bank account, IsLaidOut (front ++ c :: rest) check bank account)
    (hfront : 2 ≤ front.length) (hd : allowedAt front.length d = true) :
    ∃ check bank account, IsLaidOut (front ++ d :: rest) check bank account := by
  -- Being laid out well is asked place by place, and one place has changed.
  obtain ⟨hcountry, hlength, hallowed⟩ := exists_isLaidOut_iff.mp h
  have hfrontCountry : country <+: front :=
    List.prefix_of_prefix_length_le hcountry (List.prefix_append _ _) hfront
  have hset : front ++ d :: rest = (front ++ c :: rest).set front.length d := by simp
  refine exists_isLaidOut_iff.mpr ⟨hfrontCountry.trans (List.prefix_append _ _), ?_, ?_⟩
  · rw [hset, List.length_set, hlength]
  · intro position e he
    rw [hset, List.getElem?_set] at he
    split at he
    · next hposition =>
      subst hposition
      split at he
      · cases he
        exact hd
      · cases he
    · exact hallowed position e he

/-- Within the country code, only one character can stand at a place. -/
theorem eq_of_isPrefix {front rest rest' : List Char} {c d : Char} (hfront : front.length < 2)
    (hc : country <+: front ++ c :: rest) (hd : country <+: front ++ d :: rest') : c = d := by
  have hcplace := List.prefix_iff_getElem?.mp hc front.length hfront
  have hdplace := List.prefix_iff_getElem?.mp hd front.length hfront
  rw [List.getElem?_append_right (Nat.le_refl _), Nat.sub_self] at hcplace hdplace
  cases hcplace
  cases hdplace
  rfl

/-! ### One replaced character -/

/-- **A replaced character always changes the remainder**, if the new one is of its kind. -/
theorem number_substituted_iff {front rest : List Char} {c d : Char} (h : SameClass c d) :
    number (front ++ c :: rest) ≡ number (front ++ d :: rest) [MOD 97] ↔ c = d := by
  -- A single character is not torn apart when the country code and the check digits are moved.
  have hcut : 4 ≤ front.length ∨ front.length + [c].length ≤ 4 := by
    rw [List.length_singleton]
    omega
  have hnumber := number_modEq_iff front [c] [d] rest rfl h.width_eq hcut
  rw [worth_singleton, worth_singleton] at hnumber
  refine hnumber.trans ⟨?_, ?_⟩
  · intro hvalue
    have hc := symbolValue_le h.isSymbol.1
    have hd := symbolValue_le h.isSymbol.2
    exact symbolValue_inj h.isSymbol.1 h.isSymbol.2
      (hvalue.eq_of_lt_of_lt (by omega) (by omega))
  · rintro rfl
    rfl

/-- What is broken by a replaced character: the country code if it is touched, and else the rule
about the remainder. -/
theorem breaks_substituted {front rest : List Char} {c d : Char}
    (h : IsValid (front ++ c :: rest)) (hclass : SameClass c d) (hne : c ≠ d) :
    (front.length < 2 → Breaks (front ++ d :: rest) .wrongCountry)
      ∧ (2 ≤ front.length →
        Breaks (front ++ d :: rest) (.checksum (number (front ++ d :: rest) % 97))) := by
  obtain ⟨hlaid, hremainder⟩ := h
  obtain ⟨hcountry, -, hallowed⟩ := exists_isLaidOut_iff.mp hlaid
  constructor
  · intro hfront
    refine .wrongCountry (by simp) ?_
    intro hcountry'
    exact hne (eq_of_isPrefix hfront hcountry hcountry')
  · intro hfront
    have hc : allowedAt front.length c = true := hallowed front.length c (by simp)
    have hd : allowedAt front.length d = true := by rw [← hclass.allowedAt_eq, hc]
    obtain ⟨check, bank, account, hlaid'⟩ := exists_isLaidOut_replaced hlaid hfront hd
    -- The layout is as it was, so the remainder must have changed.
    refine .checksum hlaid' ?_
    intro hremainder'
    have hmod : number (front ++ c :: rest) ≡ number (front ++ d :: rest) [MOD 97] :=
      hremainder.trans hremainder'.symm
    exact hne ((number_substituted_iff hclass).mp hmod)

/-! ### Two neighbours that change places -/

/-- The pairs of a digit and a letter that is worth eleven times as much. -/
def confusables : List (Char × Char) := [('1', 'B'), ('2', 'M'), ('3', 'X')]

/-- The characters are `1` and `B`, `2` and `M`, or `3` and `X`, in either order. -/
def Confusable (x y : Char) : Prop := (x, y) ∈ confusables ∨ (y, x) ∈ confusables

theorem Confusable.symm {x y : Char} (h : Confusable x y) : Confusable y x := Or.symm h

theorem confusables_spec {x y : Char} (h : (x, y) ∈ confusables) :
    isDigit x = true ∧ isCapital y = true ∧ symbolValue y = 11 * symbolValue x := by
  have hall : ∀ p ∈ confusables, isDigit p.1 = true ∧ isCapital p.2 = true
      ∧ symbolValue p.2 = 11 * symbolValue p.1 := by decide
  exact hall (x, y) h

/-- A digit and a letter are confusable if the letter is worth eleven times the digit. -/
theorem confusable_iff {x y : Char} (hx : isDigit x = true) (hy : isCapital y = true) :
    Confusable x y ↔ symbolValue y = 11 * symbolValue x := by
  constructor
  · rintro (h | h)
    · exact (confusables_spec h).2.2
    · exact absurd (confusables_spec h).2.1 (not_isCapital_of_isDigit hx)
  · intro h
    -- The letters are worth 10 to 35, so the digit is 1, 2 or 3.
    obtain ⟨-, hlow, hhigh⟩ := symbolValue_of_isCapital hy
    have hpair : ∀ p ∈ confusables, symbolValue x = symbolValue p.1 → (x, y) ∈ confusables := by
      intro p hp hvalue
      obtain ⟨hdigit, hcapital, heleven⟩ := confusables_spec hp
      have hx1 : x = p.1 := symbolValue_inj (.inl hx) (.inl hdigit) hvalue
      have hy2 : y = p.2 := symbolValue_inj (.inr hy) (.inr hcapital) (by omega)
      rw [hx1, hy2]
      exact hp
    have hdigit : symbolValue x = 1 ∨ symbolValue x = 2 ∨ symbolValue x = 3 := by omega
    rcases hdigit with hone | htwo | hthree
    · exact .inl (hpair ('1', 'B') (by decide) hone)
    · exact .inl (hpair ('2', 'M') (by decide) htwo)
    · exact .inl (hpair ('3', 'X') (by decide) hthree)

/-- Two digits or two letters are not confusable. -/
theorem SameClass.not_confusable {x y : Char} (h : SameClass x y) : ¬ Confusable x y := by
  have hmixed : ∀ {x y : Char}, SameClass x y → (x, y) ∉ confusables := by
    intro x y h hmem
    obtain ⟨hx, hy, -⟩ := confusables_spec hmem
    rcases h with ⟨-, hydigit⟩ | ⟨hxcapital, -⟩
    · exact not_isCapital_of_isDigit hydigit hy
    · exact not_isCapital_of_isDigit hx hxcapital
  rintro (hmem | hmem)
  · exact hmixed h hmem
  · exact hmixed (h.imp And.symm And.symm) hmem

/-- A digit and a letter spell `100 * a + b` in one order and `10 * b + a` in the other, which leave
the same remainder only for the three pairs. -/
theorem worth_mixed_iff {x y : Char} (hx : isDigit x = true) (hy : isCapital y = true) :
    worth [x, y] ≡ worth [y, x] [MOD 97] ↔ Confusable x y := by
  obtain ⟨-, hdigit⟩ := symbolValue_of_isDigit hx
  obtain ⟨-, hlow, hhigh⟩ := symbolValue_of_isCapital hy
  rw [worth_pair, worth_pair, width_of_isDigit hx, width_of_isCapital hy, confusable_iff hx hy]
  -- The two differ by nine times `11 * a - b`, and that lies between -35 and 89.
  unfold Nat.ModEq
  omega

/-- Two digits or two letters that change places change the remainder, unless they are equal: the
difference of their values is multiplied by 9 or by 99. -/
theorem SameClass.worth_exchanged_iff {x y : Char} (h : SameClass x y) :
    worth [x, y] ≡ worth [y, x] [MOD 97] ↔ x = y := by
  have hvalue : symbolValue x = symbolValue y ↔ x = y :=
    ⟨symbolValue_inj h.isSymbol.1 h.isSymbol.2, congrArg symbolValue⟩
  have hx := symbolValue_le h.isSymbol.1
  have hy := symbolValue_le h.isSymbol.2
  rw [worth_pair, worth_pair, ← hvalue]
  unfold Nat.ModEq
  rcases h with ⟨hxdigit, hydigit⟩ | ⟨hxcapital, hycapital⟩
  · rw [width_of_isDigit hxdigit, width_of_isDigit hydigit]
    omega
  · rw [width_of_isCapital hxcapital, width_of_isCapital hycapital]
    omega

/-- **Which exchanges leave the remainder as it is**: those of equal characters and those of a digit
and a letter that is worth eleven times as much. -/
theorem worth_exchanged_iff {x y : Char} (hx : IsSymbol x) (hy : IsSymbol y) :
    worth [x, y] ≡ worth [y, x] [MOD 97] ↔ x = y ∨ Confusable x y := by
  have hsame : SameClass x y →
      (worth [x, y] ≡ worth [y, x] [MOD 97] ↔ x = y ∨ Confusable x y) := by
    intro h
    rw [h.worth_exchanged_iff, or_iff_left h.not_confusable]
  have hne : ∀ {c d : Char}, isDigit c = true → isCapital d = true → c ≠ d := by
    rintro c d hc hd rfl
    exact not_isCapital_of_isDigit hc hd
  -- Of one kind or mixed, and then in one order or the other.
  rcases hx with hxdigit | hxcapital
  · rcases hy with hydigit | hycapital
    · exact hsame (.inl ⟨hxdigit, hydigit⟩)
    · rw [worth_mixed_iff hxdigit hycapital, or_iff_right (hne hxdigit hycapital)]
  · rcases hy with hydigit | hycapital
    · have hmixed := worth_mixed_iff hydigit hxcapital
      rw [or_iff_right (hne hydigit hxcapital).symm]
      constructor
      · intro h
        exact (hmixed.mp h.symm).symm
      · intro h
        exact (hmixed.mpr h.symm).symm
    · exact hsame (.inr ⟨hxcapital, hycapital⟩)

theorem number_exchanged_iff {front rest : List Char} {x y : Char} (hx : IsSymbol x)
    (hy : IsSymbol y) (hcut : front.length ≠ 3) :
    number (front ++ x :: y :: rest) ≡ number (front ++ y :: x :: rest) [MOD 97]
      ↔ x = y ∨ Confusable x y := by
  have hwidth : width [x, y] = width [y, x] := by
    have hxy : width [x, y] = width [x] + width [y] := width_append [x] [y]
    have hyx : width [y, x] = width [y] + width [x] := width_append [y] [x]
    omega
  -- The two stay together when the first four characters are moved behind the others.
  have hside : 4 ≤ front.length ∨ front.length + [x, y].length ≤ 4 := by
    rw [List.length_cons, List.length_singleton]
    omega
  exact (number_modEq_iff front [x, y] [y, x] rest rfl hwidth hside).trans
    (worth_exchanged_iff hx hy)

/-- In front of the account, neighbours that differ cannot change places. -/
theorem eq_of_isValid_exchanged {front rest : List Char} {x y : Char}
    (h : IsValid (front ++ x :: y :: rest)) (h' : IsValid (front ++ y :: x :: rest))
    (hfront : front.length < 8) : x = y := by
  obtain ⟨hcountry, -, hallowed⟩ := exists_isLaidOut_iff.mp h.1
  obtain ⟨hcountry', -, hallowed'⟩ := exists_isLaidOut_iff.mp h'.1
  have hx : allowedAt front.length x = true := hallowed front.length x (by simp)
  have hy : allowedAt front.length y = true := hallowed' front.length y (by simp)
  have hclass : SameClass x y := sameClass_of_allowedAt hfront hx hy
  rcases Nat.lt_or_ge front.length 2 with hstart | hstart
  · exact eq_of_isPrefix hstart hcountry hcountry'
  by_cases hcut : front.length = 3
  · -- The second check digit and the first letter of the bank, on both sides of the cut.
    have hynext : allowedAt (front.length + 1) y = true :=
      hallowed (front.length + 1) y (by simp)
    rw [hcut] at hy hynext
    have hydigit : isDigit y = true := hy
    have hycapital : isCapital y = true := hynext
    exact absurd hycapital (not_isCapital_of_isDigit hydigit)
  · have hnumber : number (front ++ x :: y :: rest) ≡ number (front ++ y :: x :: rest) [MOD 97] :=
      h.2.trans h'.2.symm
    have hexchange := (number_exchanged_iff hclass.isSymbol.1 hclass.isSymbol.2 hcut).mp hnumber
    exact hexchange.resolve_right hclass.not_confusable

/-- In the account, neighbours can always change places. -/
theorem exists_isLaidOut_exchanged {front rest : List Char} {x y : Char}
    (h : ∃ check bank account, IsLaidOut (front ++ x :: y :: rest) check bank account)
    (hfront : 8 ≤ front.length) :
    ∃ check bank account, IsLaidOut (front ++ y :: x :: rest) check bank account := by
  obtain ⟨check, bank, account, hparts⟩ := h
  have hx : IsSymbol x := hparts.isSymbol x (by simp)
  have hy : IsSymbol y := hparts.isSymbol y (by simp)
  -- One place is filled after the other: first `y` stands twice, and then `x` goes behind it.
  have htwice := exists_isLaidOut_replaced ⟨check, bank, account, hparts⟩
    (Nat.le_trans (by decide) hfront) (allowedAt_of_isSymbol hfront hy)
  have hsplit : ∀ c, front ++ y :: c :: rest = (front ++ [y]) ++ c :: rest := by
    intro c
    rw [List.append_assoc, List.singleton_append]
  have hnext : 8 ≤ (front ++ [y]).length := by
    rw [List.length_append]
    omega
  rw [hsplit] at htwice ⊢
  exact exists_isLaidOut_replaced htwice (Nat.le_trans (by decide) hnext)
    (allowedAt_of_isSymbol hnext hx)

/-- **When exchanged neighbours are overlooked**, said of rows of characters. -/
theorem isValid_exchanged_iff {front rest : List Char} {x y : Char}
    (h : IsValid (front ++ x :: y :: rest)) :
    IsValid (front ++ y :: x :: rest) ↔ x = y ∨ (8 ≤ front.length ∧ Confusable x y) := by
  have hsymbols := h.isSymbol
  have hx : IsSymbol x := hsymbols x (by simp)
  have hy : IsSymbol y := hsymbols y (by simp)
  constructor
  · intro h'
    rcases Nat.lt_or_ge front.length 8 with hfront | hfront
    · exact .inl (eq_of_isValid_exchanged h h' hfront)
    · have hnumber : x = y ∨ Confusable x y :=
        (number_exchanged_iff hx hy (by omega)).mp (h.2.trans h'.2.symm)
      exact hnumber.imp_right fun hconfusable => ⟨hfront, hconfusable⟩
  · rintro (rfl | ⟨hfront, hconfusable⟩)
    · exact h
    · have hnumber : number (front ++ x :: y :: rest) ≡ number (front ++ y :: x :: rest) [MOD 97] :=
        (number_exchanged_iff hx hy (by omega)).mpr (.inr hconfusable)
      exact ⟨exists_isLaidOut_exchanged h.1 hfront, Eq.trans hnumber.symm h.2⟩

/-! ### The check -/

theorem isValid_toList {s : String} (hnormal : normalize s = s) (hvalid : validate s = true) :
    IsValid s.toList := by
  rwa [validate_eq_true_iff, hnormal] at hvalid

/-- What stands at a place of a valid row, with what is in front of it and behind it. -/
theorem IsValid.exists_split {cs : List Char} (h : IsValid cs) {position : Nat}
    (hposition : position < 24) :
    ∃ front c rest, cs = front ++ c :: rest ∧ front.length = position := by
  have hlt : position < cs.length := by
    rw [h.length]
    exact hposition
  refine ⟨cs.take position, cs[position], cs.drop (position + 1), by simp, ?_⟩
  rw [List.length_take]
  omega

/-- The text with another character at one of its places, counted from zero. -/
def replaceAt (s : String) (position : Nat) (c : Char) : String :=
  String.ofList (s.toList.set position c)

@[simp] theorem toList_replaceAt (s : String) (position : Nat) (c : Char) :
    (replaceAt s position c).toList = s.toList.set position c :=
  String.toList_ofList

theorem isSymbol_replaceAt {s : String} (h : ∀ c ∈ s.toList, IsSymbol c) {d : Char}
    (hd : IsSymbol d) (position : Nat) : ∀ c ∈ (replaceAt s position d).toList, IsSymbol c := by
  intro c hc
  rw [toList_replaceAt] at hc
  rcases List.mem_or_eq_of_mem_set hc with hc | rfl
  · exact h c hc
  · exact hd

theorem toList_normalize_replaceAt {s : String} (h : ∀ c ∈ s.toList, IsSymbol c) {d : Char}
    (hd : IsSymbol d) (position : Nat) :
    (normalize (replaceAt s position d)).toList = s.toList.set position d := by
  rw [normalize_of_isSymbol (isSymbol_replaceAt h hd position), toList_replaceAt]

/-- **No replaced character is overlooked**: if at any place of a valid identifier a digit stands
for another digit, or a letter for another letter, the identifier is no longer valid.  The country
code is then reported if it is touched, and else a remainder that is not one. -/
theorem check_substituted {s : String} (hnormal : normalize s = s) (hvalid : validate s = true)
    {position : Nat} (hposition : position ≤ 23) :
    ∃ c, s.toList[position]? = some c ∧ ∀ d, SameClass c d → c ≠ d →
      validate (replaceAt s position d) = false
        ∧ (position < 2 → check (replaceAt s position d) = .error .wrongCountry)
        ∧ (2 ≤ position → ∃ r, r ≠ 1 ∧ check (replaceAt s position d) = .error (.checksum r)) := by
  have hs : IsValid s.toList := isValid_toList hnormal hvalid
  obtain ⟨front, c, rest, hsplit, hfront⟩ := hs.exists_split (Nat.lt_succ_of_le hposition)
  have hc : s.toList[position]? = some c := by simp [hsplit, ← hfront]
  refine ⟨c, hc, ?_⟩
  intro d hclass hne
  have hform : (normalize (replaceAt s position d)).toList = front ++ d :: rest := by
    rw [toList_normalize_replaceAt hs.isSymbol hclass.isSymbol.2]
    simp [hsplit, ← hfront]
  rw [hsplit] at hs
  obtain ⟨hstart, hbehind⟩ := breaks_substituted hs hclass hne
  rw [← hform, hfront] at hstart hbehind
  have hcountry : position < 2 → check (replaceAt s position d) = .error .wrongCountry :=
    fun h => check_of_breaks (hstart h)
  have hchecksum : 2 ≤ position →
      ∃ r, r ≠ 1 ∧ check (replaceAt s position d) = .error (.checksum r) :=
    fun h => ⟨_, (hbehind h).remainder.2, check_of_breaks (hbehind h)⟩
  refine ⟨?_, hcountry, hchecksum⟩
  -- In both cases there is a defect, and so the identifier is not valid.
  rcases Nat.lt_or_ge position 2 with h | h
  · exact validate_of_error (hcountry h)
  · obtain ⟨r, -, hr⟩ := hchecksum h
    exact validate_of_error hr

/-- In the account a letter is replaced by one that is worth eleven more. -/
theorem check_substituted_letter :
    normalize "RO49AAAA1B31007593840000" = "RO49AAAA1B31007593840000"
      ∧ validate "RO49AAAA1B31007593840000" = true ∧ 9 ≤ 23 ∧ SameClass 'B' 'M' ∧ 'B' ≠ 'M'
      ∧ validate "RO49AAAA1M31007593840000" = false
      ∧ ∃ r, r ≠ 1 ∧ check "RO49AAAA1M31007593840000" = .error (.checksum r) := by
  have hnormal : normalize "RO49AAAA1B31007593840000" = "RO49AAAA1B31007593840000" := by
    decide +kernel
  have hvalid : validate "RO49AAAA1B31007593840000" = true := by decide +kernel
  obtain ⟨c, hc, hreplaced⟩ := check_substituted hnormal hvalid (show 9 ≤ 23 by decide)
  have hB : c = 'B' := Option.some.inj (hc.symm.trans (by decide +kernel))
  subst hB
  have hclass : SameClass 'B' 'M' := .inr ⟨rfl, rfl⟩
  have htext : replaceAt "RO49AAAA1B31007593840000" 9 'M' = "RO49AAAA1M31007593840000" := by
    decide +kernel
  obtain ⟨hfalse, -, hchecksum⟩ := hreplaced 'M' hclass (by decide)
  rw [htext] at hfalse hchecksum
  exact ⟨hnormal, hvalid, by decide, hclass, by decide, hfalse, hchecksum (by decide)⟩

/-- **Exchanged neighbours are overlooked for three pairs, in the account**, and noticed everywhere
else, unless they are equal. -/
theorem validate_exchanged {s : String} (hnormal : normalize s = s) (hvalid : validate s = true)
    {i : Nat} (hi : i ≤ 22) :
    ∃ x y, s.toList[i]? = some x ∧ s.toList[i + 1]? = some y
      ∧ (validate (replaceAt (replaceAt s i y) (i + 1) x) = true
        ↔ x = y ∨ (8 ≤ i ∧ Confusable x y)) := by
  have hs : IsValid s.toList := isValid_toList hnormal hvalid
  obtain ⟨front, x, behind, hsplit, hfront⟩ := hs.exists_split (show i < 24 by omega)
  obtain ⟨y, rest, rfl⟩ : ∃ y rest, behind = y :: rest := by
    have hlength := hs.length
    rw [hsplit, List.length_append, List.length_cons] at hlength
    exact List.exists_cons_of_length_pos (by omega)
  have hx : s.toList[i]? = some x := by simp [hsplit, ← hfront]
  have hy : s.toList[i + 1]? = some y := by simp [hsplit, ← hfront]
  refine ⟨x, y, hx, hy, ?_⟩
  have hsymbols := hs.isSymbol
  have hxsymbol : IsSymbol x := hsymbols x (List.mem_of_getElem? hx)
  have hysymbol : IsSymbol y := hsymbols y (List.mem_of_getElem? hy)
  have hform : (normalize (replaceAt (replaceAt s i y) (i + 1) x)).toList
      = front ++ y :: x :: rest := by
    rw [toList_normalize_replaceAt (isSymbol_replaceAt hsymbols hysymbol i) hxsymbol]
    simp [hsplit, ← hfront]
  rw [hsplit] at hs
  rw [validate_eq_true_iff, hform, isValid_exchanged_iff hs, hfront]

/-- The first two characters of the account are a digit and a letter that is worth eleven times as
much: whoever exchanges them is not told. -/
theorem validate_exchanged_account :
    normalize "RO49AAAA1B31007593840000" = "RO49AAAA1B31007593840000"
      ∧ validate "RO49AAAA1B31007593840000" = true ∧ 8 ≤ 22 ∧ Confusable '1' 'B'
      ∧ validate "RO49AAAAB131007593840000" = true := by
  have hnormal : normalize "RO49AAAA1B31007593840000" = "RO49AAAA1B31007593840000" := by
    decide +kernel
  have hvalid : validate "RO49AAAA1B31007593840000" = true := by decide +kernel
  obtain ⟨x, y, hx, hy, hexchanged⟩ := validate_exchanged hnormal hvalid (show 8 ≤ 22 by decide)
  have hone : x = '1' := Option.some.inj (hx.symm.trans (by decide +kernel))
  have hB : y = 'B' := Option.some.inj (hy.symm.trans (by decide +kernel))
  subst hone hB
  have hconfusable : Confusable '1' 'B' := .inl (by decide)
  have htext : replaceAt (replaceAt "RO49AAAA1B31007593840000" 8 'B') 9 '1'
      = "RO49AAAAB131007593840000" := by
    decide +kernel
  rw [htext] at hexchanged
  exact ⟨hnormal, hvalid, by decide, hconfusable,
    hexchanged.mpr (.inr ⟨Nat.le_refl 8, hconfusable⟩)⟩

end IbanWatch.Iban
