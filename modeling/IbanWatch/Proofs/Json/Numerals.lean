import IbanWatch.Proofs.Json.Grammar
import IbanWatch.Proofs.Text.Encoding

/-!
# Reading numerals

A numeral is read part by part, and each part is read just when it is written.  A numeral has no end
of its own: it goes on as long as it can, so it is told from what stands behind it only if that
cannot go on with it.

## Main definitions

* `NoDigit`, `EndsNumeral` — what stands behind digits, and behind a numeral.

## Main results

* `isWhole_of_readWhole`, `fractionText_of_readFraction`, `exponentText_of_readExponent` and
  `readWhole_eq_ok`, `readFraction_eq_ok`, `readExponent_eq_ok` — the parts, in both directions.
* `isUnsigned_of_readNumeral`, `readNumeral_eq_ok` — **a numeral is read just when it is written.**
-/

namespace IbanWatch.Json

open Text

/-! ### Digits -/

/-- No digit comes next. -/
def NoDigit (s : Bytes) : Prop := ∀ b t, s = b :: t → isDigitByte b = false

/-- Nothing comes next that a numeral can go on with. -/
def EndsNumeral (s : Bytes) : Prop :=
  ∀ b t, s = b :: t → isDigitByte b = false ∧ b ≠ 46 ∧ b ≠ 101 ∧ b ≠ 69

theorem noDigit_cons {b : UInt8} {s : Bytes} (h : isDigitByte b = false) : NoDigit (b :: s) := by
  intro b' t hs
  obtain ⟨rfl, -⟩ := List.cons_eq_cons.mp hs
  exact h

theorem isDigitByte_iff {b : UInt8} : isDigitByte b = true ↔ 48 ≤ b.toNat ∧ b.toNat ≤ 57 := by
  simp only [isDigitByte, Bool.and_eq_true, decide_eq_true_eq, UInt8.le_iff_toNat_le]
  rfl

/-- The byte of a digit. -/
def digitByte (d : Nat) : UInt8 := UInt8.ofNat (48 + d)

theorem toNat_digitByte {d : Nat} (h : d < 10) : (digitByte d).toNat = 48 + d := by
  rw [digitByte, UInt8.toNat_ofNat', Nat.mod_eq_of_lt (by omega)]

theorem isDigitByte_digitByte {d : Nat} (h : d < 10) : isDigitByte (digitByte d) = true := by
  rw [isDigitByte_iff, toNat_digitByte h]
  omega

theorem digitValue_digitByte {d : Nat} (h : d < 10) : digitValue (digitByte d) = d := by
  rw [digitValue, toNat_digitByte h]
  omega

/-- A digit is encoded as its byte. -/
theorem encoded_digitsText_cons {d : Nat} (h : d < 10) (ds : Digits) :
    encoded (digitsText (d :: ds)) = digitByte d :: encoded (digitsText ds) := by
  have hd : (Nat.digitChar d).toNat = 48 + d := Nat.toNat_digitChar_of_lt_ten h
  rw [digitsText, List.map_cons, encoded_cons_of_lt (by omega), hd]
  rfl

theorem digitValue_lt {b : UInt8} (h : isDigitByte b = true) :
    digitValue b < 10 ∧ digitByte (digitValue b) = b := by
  rw [isDigitByte_iff] at h
  refine ⟨by rw [digitValue]; omega, ?_⟩
  rw [digitByte, digitValue, Nat.add_sub_cancel' h.1, UInt8.ofNat_toNat]

/-- The digits at the head of a text are all of them, and no digit comes next. -/
theorem of_readDigits {s rest : Bytes} {ds : Digits} (h : readDigits s = (ds, rest)) :
    s = encoded (digitsText ds) ++ rest ∧ (∀ d ∈ ds, d < 10) ∧ NoDigit rest := by
  induction s generalizing ds with
  | nil =>
    cases h
    refine ⟨rfl, List.forall_mem_nil _, ?_⟩
    intro b t hb
    cases hb
  | cons b s ih =>
    by_cases hb : isDigitByte b = true
    · obtain ⟨hlt, hbyte⟩ := digitValue_lt hb
      simp only [readDigits, List.takeWhile_cons_of_pos hb, List.dropWhile_cons_of_pos hb,
        List.map_cons] at h
      cases h
      obtain ⟨hs, hds, hrest⟩ := ih rfl
      refine ⟨?_, List.forall_mem_cons.mpr ⟨hlt, hds⟩, hrest⟩
      rw [encoded_digitsText_cons hlt, hbyte, List.cons_append]
      exact congrArg (b :: ·) hs
    · simp only [readDigits, List.takeWhile_cons_of_neg hb, List.dropWhile_cons_of_neg hb] at h
      cases h
      exact ⟨rfl, List.forall_mem_nil _, noDigit_cons (by simpa using hb)⟩

/-- Digits that no digit follows are read. -/
theorem readDigits_eq {ds : Digits} (h : ∀ d ∈ ds, d < 10) {rest : Bytes} (hrest : NoDigit rest) :
    readDigits (encoded (digitsText ds) ++ rest) = (ds, rest) := by
  induction ds with
  | nil =>
    cases rest with
    | nil => rfl
    | cons b t =>
      have hb : ¬ isDigitByte b = true := by simp [hrest b t rfl]
      change readDigits (b :: t) = _
      simp only [readDigits, List.takeWhile_cons_of_neg hb, List.dropWhile_cons_of_neg hb,
        List.map_nil]
  | cons d ds ih =>
    rw [List.forall_mem_cons] at h
    have hd := isDigitByte_digitByte h.1
    have ih := ih h.2
    simp only [readDigits, Prod.mk.injEq] at ih
    rw [encoded_digitsText_cons h.1, List.cons_append]
    simp only [readDigits, List.takeWhile_cons_of_pos hd, List.dropWhile_cons_of_pos hd,
      List.map_cons, digitValue_digitByte h.1, ih.1, ih.2]

theorem IsDigits.exists_cons {ds : Digits} (h : IsDigits ds) (rest : Bytes) :
    ∃ d ds', ds = d :: ds' ∧ d < 10
      ∧ encoded (digitsText ds) ++ rest
        = digitByte d :: (encoded (digitsText ds') ++ rest) := by
  obtain ⟨hne, hall⟩ := h
  cases ds with
  | nil => exact absurd rfl hne
  | cons d ds' =>
    rw [List.forall_mem_cons] at hall
    refine ⟨d, ds', rfl, hall.1, ?_⟩
    rw [encoded_digitsText_cons hall.1]
    rfl

/-! ### The whole part -/

theorem isWhole_of_readWhole {s rest : Bytes} {ds : Digits} (h : readWhole s = .ok (ds, rest)) :
    IsWhole ds ∧ s = encoded (digitsText ds) ++ rest := by
  unfold readWhole at h
  split at h
  · cases h
  · split at h
    · split at h
      · cases h
      · cases h
        exact ⟨.inl rfl, rfl⟩
    · cases h
      exact ⟨.inl rfl, rfl⟩
  · next b t hzero =>
    split at h
    · next hb =>
      have hread : readDigits (b :: t) = (ds, rest) := Except.ok.inj h
      obtain ⟨hs, hall, -⟩ := of_readDigits hread
      obtain ⟨hlt, hbyte⟩ := digitValue_lt hb
      -- The first digit is the first byte, which is not a zero.
      have hhead : ds = digitValue b :: (readDigits t).1 := by
        have hds := congrArg Prod.fst hread
        simp only [readDigits, List.takeWhile_cons_of_pos hb, List.map_cons] at hds
        exact hds.symm
      refine ⟨.inr ⟨⟨by rw [hhead]; exact List.cons_ne_nil _ _, hall⟩, ?_⟩, hs⟩
      rw [hhead, List.head?_cons]
      intro hd
      apply hzero
      rw [← hbyte, Option.some.inj hd]
      rfl
    · cases h

theorem readWhole_eq_ok {ds : Digits} (h : IsWhole ds) {rest : Bytes} (hrest : NoDigit rest) :
    readWhole (encoded (digitsText ds) ++ rest) = .ok (ds, rest) := by
  rcases h with rfl | ⟨hds, hhead⟩
  · change readWhole (48 :: rest) = _
    cases rest with
    | nil => rfl
    | cons b t => simp [readWhole, hrest b t rfl]
  · have hread := readDigits_eq hds.2 hrest
    obtain ⟨d, ds', rfl, hlt, hs⟩ := hds.exists_cons rest
    -- A numeral of several digits does not begin with a zero, so it is not taken for the single
    -- zero.
    have hzero : digitByte d ≠ 48 := by
      intro hd
      have hval := digitValue_digitByte hlt
      rw [hd] at hval
      exact hhead (by rw [← hval]; rfl)
    rw [hs] at hread ⊢
    unfold readWhole
    split
    · next heq => cases heq
    · next heq => exact absurd (List.cons_eq_cons.mp heq).1 hzero
    · next heq =>
      obtain ⟨rfl, rfl⟩ := List.cons_eq_cons.mp heq
      rw [if_pos (isDigitByte_digitByte hlt), hread]

/-! ### The fraction -/

theorem fractionText_of_readFraction {s rest : Bytes} {f : Option Digits}
    (h : readFraction s = .ok (f, rest)) :
    ∃ cs, FractionText f cs ∧ s = encoded cs ++ rest := by
  unfold readFraction at h
  split at h
  · next t =>
    split at h
    · cases h
    · cases h
    · next ds rest' hnil hcons hread =>
      cases h
      obtain ⟨rfl, hall, -⟩ := of_readDigits hread
      -- The reader refuses a point without a digit.
      have hne : ds ≠ [] := by
        rintro rfl
        cases rest with
        | nil => exact hnil rfl rfl
        | cons b t => exact hcons b t rfl rfl
      refine ⟨_, .present ⟨hne, hall⟩, ?_⟩
      rw [encoded_cons_of_lt (by decide)]
      rfl
  · cases h
    exact ⟨[], .absent, rfl⟩

theorem readFraction_eq_ok {f : Option Digits} {cs : List Char} (h : FractionText f cs)
    {rest : Bytes} (hrest : ∀ b t, rest = b :: t → isDigitByte b = false ∧ b ≠ 46) :
    readFraction (encoded cs ++ rest) = .ok (f, rest) := by
  cases h with
  | absent =>
    change readFraction rest = _
    unfold readFraction
    split
    · exact absurd rfl (hrest _ _ rfl).2
    · rfl
  | @present ds hds =>
    have hread := readDigits_eq hds.2 fun b t hb => (hrest b t hb).1
    rw [encoded_cons_of_lt (by decide), List.cons_append]
    change readFraction (46 :: _) = _
    simp only [readFraction, hread]
    split
    · next heq => exact absurd (Prod.mk.inj heq).1 hds.1
    · next heq => exact absurd (Prod.mk.inj heq).1 hds.1
    · next heq =>
      cases heq
      rfl

/-! ### The exponent -/

theorem exponentSign_of_readExponentSign {s rest : Bytes} {negative : Bool}
    (h : readExponentSign s = (negative, rest)) :
    ∃ sign, ExponentSign negative sign ∧ s = encoded sign ++ rest := by
  unfold readExponentSign at h
  split at h
  · cases h
    exact ⟨_, .plus, rfl⟩
  · cases h
    exact ⟨_, .minus, rfl⟩
  · cases h
    exact ⟨_, .absent, rfl⟩

theorem readExponentSign_eq {negative : Bool} {sign : List Char} (h : ExponentSign negative sign)
    {d : Nat} (hd : d < 10) (rest : Bytes) :
    readExponentSign (encoded sign ++ digitByte d :: rest) = (negative, digitByte d :: rest) := by
  cases h with
  | plus => rfl
  | minus => rfl
  | absent =>
    -- A digit is no sign, so nothing is taken for one.
    have hbyte := toNat_digitByte hd
    change readExponentSign (digitByte d :: rest) = _
    unfold readExponentSign
    split
    · next heq =>
      rw [(List.cons_eq_cons.mp heq).1] at hbyte
      change 43 = 48 + d at hbyte
      omega
    · next heq =>
      rw [(List.cons_eq_cons.mp heq).1] at hbyte
      change 45 = 48 + d at hbyte
      omega
    · rfl

theorem exponentText_of_readExponent {s rest : Bytes} {e : Option Exponent}
    (h : readExponent s = .ok (e, rest)) :
    ∃ cs, ExponentText e cs ∧ s = encoded cs ++ rest := by
  unfold readExponent at h
  split at h
  · cases h
    exact ⟨[], .absent, rfl⟩
  · next b t =>
    split at h
    · next hmark =>
      simp only [Bool.or_eq_true, decide_eq_true_eq] at hmark
      split at h
      next negative digits hsign =>
      obtain ⟨sign, hsigned, rfl⟩ := exponentSign_of_readExponentSign hsign
      split at h
      · cases h
      · next d t' =>
        split at h
        · next hd =>
          cases h
          obtain ⟨hs, hall, -⟩ := of_readDigits (s := d :: t') rfl
          have hne : (readDigits (d :: t')).1 ≠ [] := by
            simp only [readDigits, List.takeWhile_cons_of_pos hd, List.map_cons]
            exact List.cons_ne_nil _ _
          have hdigits : IsDigits (readDigits (d :: t')).1 := ⟨hne, hall⟩
          -- The letter is in the text as it was, so both have to be put back.
          rcases hmark with rfl | rfl
          · refine ⟨_, .present (.inl rfl) hsigned hdigits, ?_⟩
            rw [encoded_cons_of_lt (by decide), encoded_append, List.cons_append,
              List.append_assoc, ← hs]
            rfl
          · refine ⟨_, .present (.inr rfl) hsigned hdigits, ?_⟩
            rw [encoded_cons_of_lt (by decide), encoded_append, List.cons_append,
              List.append_assoc, ← hs]
            rfl
        · cases h
    · cases h
      exact ⟨[], .absent, rfl⟩

theorem readExponent_eq_ok {e : Option Exponent} {cs : List Char} (h : ExponentText e cs)
    {rest : Bytes} (hrest : ∀ b t, rest = b :: t → isDigitByte b = false ∧ b ≠ 101 ∧ b ≠ 69) :
    readExponent (encoded cs ++ rest) = .ok (e, rest) := by
  cases h with
  | absent =>
    cases rest with
    | nil => rfl
    | cons b t =>
      obtain ⟨-, he, hE⟩ := hrest b t rfl
      simp [readExponent, he, hE]
  | @present mark negative sign ds hmark hsign hds =>
    have hread := readDigits_eq hds.2 fun b t hb => (hrest b t hb).1
    obtain ⟨d, ds', rfl, hlt, hs⟩ := hds.exists_cons rest
    rw [hs] at hread
    have hbyte : ∃ b : UInt8, (b = 101 ∨ b = 69) ∧ encoded (mark :: (sign ++ digitsText (d :: ds')))
        ++ rest = b :: (encoded sign ++ digitByte d :: (encoded (digitsText ds') ++ rest)) := by
      rcases hmark with rfl | rfl
      · refine ⟨101, .inl rfl, ?_⟩
        rw [encoded_cons_of_lt (by decide), encoded_append, List.cons_append, List.append_assoc,
          hs]
        rfl
      · refine ⟨69, .inr rfl, ?_⟩
        rw [encoded_cons_of_lt (by decide), encoded_append, List.cons_append, List.append_assoc,
          hs]
        rfl
    obtain ⟨b, hb, hs'⟩ := hbyte
    rw [hs', readExponent, if_pos (by simpa using hb)]
    simp only [readExponentSign_eq hsign hlt, isDigitByte_digitByte hlt, if_true, hread]

/-! ### Numerals -/

/-- **A numeral that is read is written.** -/
theorem isUnsigned_of_readNumeral {negative : Bool} {s rest : Bytes} {n : Numeral}
    (h : readNumeral negative s = .ok (n, rest)) :
    n.negative = negative ∧ ∃ cs, n.IsUnsigned cs ∧ s = encoded cs ++ rest := by
  cases hw : readWhole s with
  | error fault => simp [readNumeral, hw, bind, Except.bind] at h
  | ok whole =>
  cases hf : readFraction whole.2 with
  | error fault => simp [readNumeral, hw, hf, bind, Except.bind] at h
  | ok fraction =>
  cases he : readExponent fraction.2 with
  | error fault => simp [readNumeral, hw, hf, he, bind, Except.bind] at h
  | ok exponent =>
    obtain ⟨ds, s₁⟩ := whole
    obtain ⟨f, s₂⟩ := fraction
    obtain ⟨e, s₃⟩ := exponent
    simp only [readNumeral, hw, hf, he, bind, Except.bind, pure, Except.pure] at h
    cases h
    obtain ⟨hwhole, rfl⟩ := isWhole_of_readWhole hw
    obtain ⟨fs, hfs, rfl⟩ := fractionText_of_readFraction hf
    obtain ⟨es, hes, rfl⟩ := exponentText_of_readExponent he
    refine ⟨rfl, _, ⟨hwhole, fs, es, hfs, hes, rfl⟩, ?_⟩
    simp only [encoded_append, List.append_assoc]

/-- What an exponent begins with is neither a digit nor the point. -/
theorem head_of_exponentText {e : Option Exponent} {cs : List Char} (h : ExponentText e cs)
    {rest : Bytes} (hrest : EndsNumeral rest) :
    ∀ b t, encoded cs ++ rest = b :: t → isDigitByte b = false ∧ b ≠ 46 := by
  cases h with
  | absent => exact fun b t hb => ⟨(hrest b t hb).1, (hrest b t hb).2.1⟩
  | present hmark hsign hds =>
    rcases hmark with rfl | rfl
    · rw [encoded_cons_of_lt (by decide)]
      rintro b t hb
      obtain ⟨rfl, -⟩ := List.cons_eq_cons.mp hb
      decide
    · rw [encoded_cons_of_lt (by decide)]
      rintro b t hb
      obtain ⟨rfl, -⟩ := List.cons_eq_cons.mp hb
      decide

/-- What a fraction begins with is no digit. -/
theorem noDigit_of_fractionText {f : Option Digits} {cs : List Char} (h : FractionText f cs)
    {rest : Bytes} (hrest : NoDigit rest) : NoDigit (encoded cs ++ rest) := by
  cases h with
  | absent => exact hrest
  | present hds =>
    rw [encoded_cons_of_lt (by decide)]
    exact noDigit_cons (by decide)

/-- **A numeral that is written is read**, if nothing stands behind it that it can go on with. -/
theorem readNumeral_eq_ok {n : Numeral} {cs : List Char} (h : n.IsUnsigned cs) {rest : Bytes}
    (hrest : EndsNumeral rest) : readNumeral n.negative (encoded cs ++ rest) = .ok (n, rest) := by
  obtain ⟨hwhole, fs, es, hfs, hes, rfl⟩ := h
  -- From the end to the front, as each part has to know what it is followed by.
  have he := readExponent_eq_ok hes fun b t hb => ⟨(hrest b t hb).1, (hrest b t hb).2.2⟩
  have hhead := head_of_exponentText hes hrest
  have hf := readFraction_eq_ok hfs hhead
  have hw := readWhole_eq_ok hwhole
    (noDigit_of_fractionText hfs fun b t hb => (hhead b t hb).1)
  simp only [encoded_append, List.append_assoc]
  simp only [readNumeral, hw, hf, he, bind, Except.bind, pure, Except.pure]

/-- A number is read just when its numeral is, and the number can be kept. -/
theorem readNumber_eq_ok_iff {negative : Bool} {s rest : Bytes} {n : Number} :
    readNumber negative s = .ok (n, rest)
      ↔ ∃ numeral, readNumeral negative s = .ok (numeral, rest) ∧ numeral.number = .ok n := by
  cases hn : readNumeral negative s with
  | error fault => simp [readNumber, hn, bind, Except.bind]
  | ok found =>
    obtain ⟨numeral, rest'⟩ := found
    -- A numeral may be read and its number still be too large to be kept.
    cases hv : numeral.number with
    | error unread =>
      simp only [readNumber, hn, hv, bind, Except.bind, throw, throwThe, MonadExceptOf.throw]
      constructor
      · intro h
        cases h
      · rintro ⟨numeral', h, hv'⟩
        cases h
        rw [hv] at hv'
        cases hv'
    | ok n' =>
      simp only [readNumber, hn, hv, bind, Except.bind, pure, Except.pure]
      constructor
      · intro h
        cases h
        exact ⟨numeral, rfl, hv⟩
      · rintro ⟨numeral', h, hv'⟩
        cases h
        rw [hv] at hv'
        cases hv'
        rfl

end IbanWatch.Json
