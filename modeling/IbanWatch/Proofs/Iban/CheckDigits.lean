import IbanWatch.Proofs.Iban.NormalForm
import IbanWatch.Proofs.Iban.Weights

/-!
# The check digits of an account

Whoever gives out an identifier takes the bank and the account, writes the country code and two
zeros behind them, and has the remainder `r` of the number that this spells.  The check digits are
`98 - r`: in the place of the zeros they make the remainder one.

The check, on the other side, admits any two digits there, so it takes every pair that is congruent
to `98 - r`.  From 02 to 98 that is the generated pair alone, since these are 97 numbers in a row;
the pairs 00, 01 and 99 are as good as 97, 98 and 02.

## Main definitions

* `twoDigits` — a number below a hundred, written with two digits.
* `identifier` — the identifier with these check digits, for a bank and an account.
* `openRemainder`, `generated` — the remainder with zeros for the check digits, and the check digits
  that come from it.
* `TakesGenerated` — everything about the check digits of a bank and an account.

## Main results

* `number_identifier` — the check digits are added to the number with zeros in their place.
* `validate_identifier_iff` — which check digits are taken.
* `takesGenerated` — **from 02 to 98 the check takes the generated check digits and no others**.
-/

namespace IbanWatch.Iban

open Text

/-! ### Two digits -/

/-- A number below a hundred, written with two digits. -/
def twoDigits (d : Nat) : List Char := [Nat.digitChar (d / 10), Nat.digitChar (d % 10)]

theorem digitChar_spec {k : Nat} (h : k < 10) :
    isDigit (Nat.digitChar k) = true ∧ symbolValue (Nat.digitChar k) = k := by
  have hall : ∀ k < 10, isDigit (Nat.digitChar k) = true ∧ symbolValue (Nat.digitChar k) = k := by
    decide
  exact hall k h

theorem isDigit_of_mem_twoDigits {d : Nat} (h : d < 100) : ∀ c ∈ twoDigits d, isDigit c = true := by
  intro c hc
  simp only [twoDigits, List.mem_cons, List.not_mem_nil, or_false] at hc
  -- Tens and ones are below ten, since the number is below a hundred.
  rcases hc with rfl | rfl
  · exact (digitChar_spec (by omega)).1
  · exact (digitChar_spec (by omega)).1

/-- Two digits spell their number, with two digits. -/
theorem worth_twoDigits {d : Nat} (h : d < 100) :
    worth (twoDigits d) = d ∧ width (twoDigits d) = 2 := by
  obtain ⟨htens, htensValue⟩ := digitChar_spec (show d / 10 < 10 by omega)
  obtain ⟨hones, honesValue⟩ := digitChar_spec (show d % 10 < 10 by omega)
  constructor
  · rw [twoDigits, worth_pair, width_of_isDigit hones, htensValue, honesValue]
    omega
  · have hwidth : width (twoDigits d)
        = width [Nat.digitChar (d / 10)] + width [Nat.digitChar (d % 10)] :=
      width_append [_] [_]
    rw [hwidth, width_of_isDigit htens, width_of_isDigit hones]

/-! ### Identifiers from their parts -/

/-- The identifier with the check digits `d`, for a bank and an account. -/
def identifier (d : Nat) (bank account : List Char) : String :=
  String.ofList (country ++ (twoDigits d ++ (bank ++ account)))

/-- The remainder of the number that bank, account and country code spell with two zeros behind
them. -/
def openRemainder (bank account : List Char) : Nat :=
  worth (bank ++ (account ++ (country ++ ['0', '0']))) % 97

/-- The check digits that are given out for a bank and an account. -/
def generated (bank account : List Char) : Nat := 98 - openRemainder bank account

theorem generated_le (bank account : List Char) :
    2 ≤ generated bank account ∧ generated bank account ≤ 98 := by
  have hlt : openRemainder bank account < 97 := Nat.mod_lt _ (by decide)
  rw [generated]
  omega

section

variable {bank account : List Char}

theorem isLaidOut_identifier (hbank : bank.length = 4 ∧ ∀ c ∈ bank, isCapital c = true)
    (haccount : account.length = 16 ∧ ∀ c ∈ account, IsSymbol c) {d : Nat} (hd : d < 100) :
    IsLaidOut (identifier d bank account).toList (twoDigits d) bank account where
  parts := String.toList_ofList
  check := ⟨rfl, isDigit_of_mem_twoDigits hd⟩
  bank := hbank
  account := haccount

/-- **The check digits are added** to the number with zeros in their place. -/
theorem number_identifier (bank account : List Char) {d : Nat} (hd : d < 100) :
    number (identifier d bank account).toList
      = worth (bank ++ (account ++ (country ++ ['0', '0']))) + d := by
  have hadd : ∀ front, worth (front ++ twoDigits d) = worth (front ++ ['0', '0']) + d := by
    intro front
    obtain ⟨hworth, hwidth⟩ := worth_twoDigits hd
    obtain ⟨hzeros, hzerosWidth⟩ := worth_twoDigits (show 0 < 100 by decide)
    rw [show ['0', '0'] = twoDigits 0 from rfl, worth_append, worth_append, hworth, hwidth, hzeros,
      hzerosWidth, Nat.add_zero]
  -- The check digits are the last two that are spelled, behind the country code.
  have hrotated : (identifier d bank account).toList.drop 4
      ++ (identifier d bank account).toList.take 4
        = (bank ++ (account ++ country)) ++ twoDigits d := by
    simp [identifier, country, twoDigits]
  rw [number_eq, hrotated, hadd]
  simp only [List.append_assoc]

/-- **Which check digits are taken**: those that are congruent to the generated ones. -/
theorem validate_identifier_iff (hbank : bank.length = 4 ∧ ∀ c ∈ bank, isCapital c = true)
    (haccount : account.length = 16 ∧ ∀ c ∈ account, IsSymbol c) {d : Nat} (hd : d < 100) :
    validate (identifier d bank account) = true ↔ d ≡ generated bank account [MOD 97] := by
  have hlaid := isLaidOut_identifier hbank haccount hd
  have hnormal := normalize_of_isSymbol hlaid.isSymbol
  have hvalid : IsValid (identifier d bank account).toList
      ↔ (worth (bank ++ (account ++ (country ++ ['0', '0']))) + d) % 97 = 1 := by
    rw [IsValid, number_identifier bank account hd]
    exact and_iff_right ⟨_, bank, account, hlaid⟩
  rw [validate_eq_true_iff, hnormal, hvalid, generated, openRemainder]
  unfold Nat.ModEq
  omega

end

/-! ### Everything together -/

/-- Everything about the check digits of a bank and an account. -/
structure TakesGenerated (bank account : List Char) : Prop where
  /-- The pairs that are taken are those congruent to 98 less the remainder with zeros. -/
  taken : ∀ d < 100, (validate (identifier d bank account) = true
    ↔ d ≡ 98 - openRemainder bank account [MOD 97])
  /-- From 02 to 98, that is 98 less the remainder, and no other. -/
  only : ∀ d, 2 ≤ d → d ≤ 98 → (validate (identifier d bank account) = true
    ↔ d = 98 - openRemainder bank account)
  /-- The generated check digits lie between these two. -/
  within : 2 ≤ generated bank account ∧ generated bank account ≤ 98
  /-- The identifier that is given out is valid. -/
  valid : validate (identifier (generated bank account) bank account) = true

/-- **From 02 to 98 the check takes the generated check digits and no others**, for every bank of
four letters and every account of sixteen letters or digits. -/
theorem takesGenerated {bank account : List Char}
    (hbank : bank.length = 4 ∧ ∀ c ∈ bank, isCapital c = true)
    (haccount : account.length = 16 ∧ ∀ c ∈ account, IsSymbol c) : TakesGenerated bank account := by
  obtain ⟨hlow, hhigh⟩ := generated_le bank account
  refine ⟨fun d hd => validate_identifier_iff hbank haccount hd, ?_, ⟨hlow, hhigh⟩, ?_⟩
  · intro d hdlow hdhigh
    rw [validate_identifier_iff hbank haccount (by omega)]
    constructor
    · intro hmod
      -- Both lie in a row of 97 numbers.
      change d % 97 = generated bank account % 97 at hmod
      change d = generated bank account
      omega
    · intro heq
      rw [heq]
      rfl
  · rw [validate_identifier_iff hbank haccount (by omega)]

/-- An account whose generated check digits are 02, so that 99 is taken as well. -/
theorem takesGenerated_low :
    ("AAAA".toList.length = 4 ∧ ∀ c ∈ "AAAA".toList, isCapital c = true)
      ∧ ("0000000000000067".toList.length = 16 ∧ ∀ c ∈ "0000000000000067".toList, IsSymbol c)
      ∧ generated "AAAA".toList "0000000000000067".toList = 2
      ∧ validate "RO02AAAA0000000000000067" = true
      ∧ validate "RO99AAAA0000000000000067" = true := by
  have hbank : "AAAA".toList.length = 4 ∧ ∀ c ∈ "AAAA".toList, isCapital c = true :=
    ⟨by decide, List.all_eq_true.mp (by decide)⟩
  have haccount : "0000000000000067".toList.length = 16
      ∧ ∀ c ∈ "0000000000000067".toList, IsSymbol c := by
    refine ⟨by decide, ?_⟩
    intro c hc
    exact .inl (List.all_eq_true.mp (by decide) c hc)
  have htakes := takesGenerated hbank haccount
  have hgenerated : generated "AAAA".toList "0000000000000067".toList = 2 := by decide +kernel
  have hvalid := htakes.valid
  rw [hgenerated] at hvalid
  exact ⟨hbank, haccount, hgenerated, hvalid, (htakes.taken 99 (by decide)).mpr (by decide +kernel)⟩

end IbanWatch.Iban
