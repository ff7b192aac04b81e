import IbanWatch.Proofs.Iban.Checking
import Mathlib.Logic.Relation

/-!
# The normal form of a candidate

People write an identifier in groups, with blanks between them, and in small letters or in capitals.
These differences of style are said here without the normal form, as the smallest equivalence that
does not tell a text from the same text with one more blank in it, or with one of its capitals made
small.  Two texts then differ in style alone just when they have the same normal form.

One half is an invariant: no single change of style touches the normal form.  For the other half
every text is led to its own normal form by such changes, one character after another.  Both rest on
one fact about characters: putting a letter in upper case never makes or hides white space.

## Main definitions

* `IsSmallOf` — a small letter and its capital.
* `Restyle`, `SameStyled`, `SameButStyle` — one change of style, and any number of them.
* `normalForm` — the normal form, as a function of rows of characters.
* `IgnoresStyle` — everything about style, the normal form and the check.

## Main results

* `toUpper_cases`, `isBlank_toUpper` — what upper case does to a character.
* `Restyle.normalForm_eq` — no change of style touches the normal form.
* `sameStyled_normalForm` — every text is its normal form in another style.
* `normalize_of_isSymbol` — letters and digits are in normal form.
* `ignoresStyle` — **style is all that the normal form takes away, and all that a check ignores**.
-/

namespace IbanWatch.Iban

open Text

/-! ### Upper case -/

/-- The character `d` is the small letter that belongs to the capital `c`. -/
def IsSmallOf (d c : Char) : Prop := isCapital c = true ∧ d.toNat = c.toNat + 32

theorem isSmall_iff {c : Char} :
    ('a'.val ≤ c.val ∧ c.val ≤ 'z'.val) ↔ 97 ≤ c.toNat ∧ c.toNat ≤ 122 := Iff.rfl

/-- Upper case moves the small letters 32 places down and leaves every other character alone. -/
theorem toNat_toUpper (c : Char) :
    c.toUpper.toNat = if 97 ≤ c.toNat ∧ c.toNat ≤ 122 then c.toNat - 32 else c.toNat := by
  unfold Char.toUpper
  split
  · next h =>
    rw [isSmall_iff] at h
    rw [if_pos h]
    show (c.val + ('A'.val - 'a'.val)).toNat = c.val.toNat - 32
    change 97 ≤ c.val.toNat ∧ c.val.toNat ≤ 122 at h
    -- The word that is added is minus 32, so the sum wraps around once.
    rw [UInt32.toNat_add, show ('A'.val - 'a'.val).toNat = 2 ^ 32 - 32 from rfl]
    omega
  · next h =>
    rw [isSmall_iff] at h
    rw [if_neg h]

/-- A capital is the upper case of its small letter. -/
theorem IsSmallOf.toUpper_eq {c d : Char} (h : IsSmallOf d c) : d.toUpper = c := by
  obtain ⟨hcapital, hd⟩ := h
  rw [isCapital_iff] at hcapital
  rw [← Char.toNat_inj, toNat_toUpper, if_pos (by omega)]
  omega

/-- **Upper case** either leaves a character alone or takes a small letter to its capital. -/
theorem toUpper_cases (c : Char) : c.toUpper = c ∨ IsSmallOf c c.toUpper := by
  by_cases h : 97 ≤ c.toNat ∧ c.toNat ≤ 122
  · right
    rw [IsSmallOf, isCapital_iff, toNat_toUpper, if_pos h]
    omega
  · left
    rw [← Char.toNat_inj, toNat_toUpper, if_neg h]

/-- A letter or digit is in upper case. -/
theorem toUpper_of_isSymbol {c : Char} (h : IsSymbol c) : c.toUpper = c := by
  rw [IsSymbol, isDigit_iff, isCapital_iff] at h
  rw [← Char.toNat_inj, toNat_toUpper, if_neg (by omega)]

theorem toUpper_toUpper (c : Char) : c.toUpper.toUpper = c.toUpper := by
  rcases toUpper_cases c with h | h
  · rw [h, h]
  · exact toUpper_of_isSymbol (.inr h.1)

/-! ### White space -/

/-- What is printed in ASCII is not white space. -/
theorem isBlank_of_printed {c : Char} (hlow : 0x21 ≤ c.toNat) (hhigh : c.toNat ≤ 0x7E) :
    isBlank c = false := by
  rw [isBlank, ← Bool.not_eq_true, Ranges.contains_iff]
  simp [blankRanges]
  omega

theorem isBlank_of_isSymbol {c : Char} (h : IsSymbol c) : isBlank c = false := by
  rw [IsSymbol, isDigit_iff, isCapital_iff] at h
  exact isBlank_of_printed (by omega) (by omega)

/-- No letter is white space, neither the capital nor the small one. -/
theorem IsSmallOf.isBlank_eq {c d : Char} (h : IsSmallOf d c) :
    isBlank d = false ∧ isBlank c = false := by
  obtain ⟨hcapital, hd⟩ := h
  refine ⟨?_, isBlank_of_isSymbol (.inr hcapital)⟩
  rw [isCapital_iff] at hcapital
  exact isBlank_of_printed (by omega) (by omega)

/-- **Upper case never makes or hides white space.** -/
theorem isBlank_toUpper (c : Char) : isBlank c.toUpper = isBlank c := by
  rcases toUpper_cases c with h | h
  · rw [h]
  · rw [h.isBlank_eq.1, h.isBlank_eq.2]

/-! ### The normal form -/

/-- The row of characters without white space and with its ASCII letters in upper case. -/
def normalForm (cs : List Char) : List Char := (cs.filter fun c => !isBlank c).map Char.toUpper

@[simp] theorem normalForm_nil : normalForm [] = [] := rfl

@[simp] theorem normalForm_append (cs ds : List Char) :
    normalForm (cs ++ ds) = normalForm cs ++ normalForm ds := by
  simp [normalForm]

theorem normalForm_cons_of_isBlank {c : Char} (h : isBlank c = true) (cs : List Char) :
    normalForm (c :: cs) = normalForm cs := by
  simp [normalForm, h]

theorem normalForm_cons_of_not_isBlank {c : Char} (h : isBlank c = false) (cs : List Char) :
    normalForm (c :: cs) = c.toUpper :: normalForm cs := by
  simp [normalForm, h]

theorem normalForm_normalForm (cs : List Char) : normalForm (normalForm cs) = normalForm cs := by
  induction cs with
  | nil => rfl
  | cons c cs ih =>
    cases h : isBlank c with
    | true => rw [normalForm_cons_of_isBlank h, ih]
    | false =>
      have hupper : isBlank c.toUpper = false := by rw [isBlank_toUpper, h]
      rw [normalForm_cons_of_not_isBlank h, normalForm_cons_of_not_isBlank hupper,
        toUpper_toUpper, ih]

theorem normalForm_of_isSymbol {cs : List Char} (h : ∀ c ∈ cs, IsSymbol c) :
    normalForm cs = cs := by
  induction cs with
  | nil => rfl
  | cons c cs ih =>
    rw [List.forall_mem_cons] at h
    rw [normalForm_cons_of_not_isBlank (isBlank_of_isSymbol h.1), toUpper_of_isSymbol h.1, ih h.2]

theorem normalize_eq (s : String) : normalize s = String.ofList (normalForm s.toList) := rfl

theorem normalize_eq_iff {s t : String} :
    normalize s = normalize t ↔ normalForm s.toList = normalForm t.toList := by
  rw [normalize_eq, normalize_eq, String.ofList_inj]

theorem normalize_normalize (s : String) : normalize (normalize s) = normalize s := by
  rw [normalize_eq_iff, normalize_eq, String.toList_ofList, normalForm_normalForm]

theorem normalize_append (s t : String) : normalize (s ++ t) = normalize s ++ normalize t := by
  rw [normalize_eq, normalize_eq, normalize_eq, String.toList_append, normalForm_append,
    String.ofList_append]

/-- The check asks for the normal form and for nothing else. -/
theorem check_congr {s t : String} (h : normalize s = normalize t) : check s = check t := by
  rw [check_eq, check_eq, h]

/-- **Letters and digits are in normal form.** -/
theorem normalize_of_isSymbol {s : String} (h : ∀ c ∈ s.toList, IsSymbol c) : normalize s = s := by
  rw [normalize_eq, normalForm_of_isSymbol h, String.ofList_toList]

/-! ### Style -/

/-- One change in the style of a text. -/
inductive Restyle : List Char → List Char → Prop where
  /-- White space is put in somewhere. -/
  | blank (front rest : List Char) {c : Char} (h : isBlank c = true) :
      Restyle (front ++ rest) (front ++ c :: rest)
  /-- A capital is written small. -/
  | small (front rest : List Char) {c d : Char} (h : IsSmallOf d c) :
      Restyle (front ++ c :: rest) (front ++ d :: rest)

/-- The rows of characters differ in style alone: white space is put in and taken out, and letters
of ASCII change their case, any number of times. -/
abbrev SameStyled : List Char → List Char → Prop := Relation.EqvGen Restyle

/-- The texts differ only by white space, put in or taken out anywhere, and by the case of ASCII
letters. -/
def SameButStyle (s t : String) : Prop := SameStyled s.toList t.toList

/-- **No change of style touches the normal form.** -/
theorem Restyle.normalForm_eq {cs ds : List Char} (h : Restyle cs ds) :
    normalForm cs = normalForm ds := by
  cases h with
  | blank front rest hblank =>
    rw [normalForm_append, normalForm_append, normalForm_cons_of_isBlank hblank]
  | @small front rest c d hsmall =>
    have hcapital : c.toUpper = c := toUpper_of_isSymbol (.inr hsmall.1)
    rw [normalForm_append, normalForm_append, normalForm_cons_of_not_isBlank hsmall.isBlank_eq.1,
      normalForm_cons_of_not_isBlank hsmall.isBlank_eq.2, hsmall.toUpper_eq, hcapital]

theorem SameStyled.normalForm_eq {cs ds : List Char} (h : SameStyled cs ds) :
    normalForm cs = normalForm ds := by
  induction h with
  | rel cs ds hstep => exact hstep.normalForm_eq
  | refl cs => rfl
  | symm cs ds _ ih => exact ih.symm
  | trans cs ds es _ _ ih₁ ih₂ => exact ih₁.trans ih₂

/-- What is changed behind a character is changed in the row that begins with it. -/
theorem SameStyled.cons (c : Char) {cs ds : List Char} (h : SameStyled cs ds) :
    SameStyled (c :: cs) (c :: ds) := by
  induction h with
  | rel cs ds hstep =>
    apply Relation.EqvGen.rel
    cases hstep with
    | blank front rest hblank => exact .blank (c :: front) rest hblank
    | small front rest hsmall => exact .small (c :: front) rest hsmall
  | refl cs => exact .refl _
  | symm cs ds _ ih => exact ih.symm
  | trans cs ds es _ _ ih₁ ih₂ => exact ih₁.trans _ _ _ ih₂

/-- **Every text is its normal form in another style.** -/
theorem sameStyled_normalForm (cs : List Char) : SameStyled cs (normalForm cs) := by
  induction cs with
  | nil => exact .refl _
  | cons c cs ih =>
    cases h : isBlank c with
    | true =>
      have hout : SameStyled (c :: cs) cs := .symm _ _ (.rel _ _ (.blank [] cs h))
      rw [normalForm_cons_of_isBlank h]
      exact hout.trans _ _ _ ih
    | false =>
      have hcase : SameStyled (c :: normalForm cs) (c.toUpper :: normalForm cs) := by
        rcases toUpper_cases c with hsame | hsmall
        · rw [hsame]
          exact .refl _
        · exact .symm _ _ (.rel _ _ (.small [] (normalForm cs) hsmall))
      rw [normalForm_cons_of_not_isBlank h]
      exact (ih.cons c).trans _ _ _ hcase

theorem sameButStyle_iff (s t : String) : SameButStyle s t ↔ normalize s = normalize t := by
  rw [normalize_eq_iff]
  constructor
  · intro h
    exact SameStyled.normalForm_eq h
  · intro h
    have ht : SameStyled (normalForm s.toList) t.toList := by
      rw [h]
      exact .symm _ _ (sameStyled_normalForm t.toList)
    exact (sameStyled_normalForm s.toList).trans _ _ _ ht

/-! ### Everything together -/

/-- Everything about style, the normal form and the check, for two texts. -/
structure IgnoresStyle (s t : String) : Prop where
  /-- Texts that differ in style alone get the same answer: both succeed, or both have the same
  defect with the same position, character, length or remainder. -/
  check : SameButStyle s t → Iban.check s = Iban.check t
  /-- A text differs in style alone from those that have its normal form, and from no others. -/
  sameButStyle : SameButStyle s t ↔ normalize s = normalize t
  /-- The normal form is in normal form. -/
  idempotent : normalize (normalize s) = normalize s
  /-- The normal form is taken one part after another. -/
  append : normalize (s ++ t) = normalize s ++ normalize t
  /-- A text and its normal form get the same answer. -/
  check_normalize : Iban.check (normalize s) = Iban.check s

/-- **Style is all that the normal form takes away, and all that a check ignores.** -/
theorem ignoresStyle (s t : String) : IgnoresStyle s t where
  check := fun h => check_congr ((sameButStyle_iff s t).mp h)
  sameButStyle := sameButStyle_iff s t
  idempotent := normalize_normalize s
  append := normalize_append s t
  check_normalize := check_congr (normalize_normalize s)

/-- Letters that are not of ASCII keep their case, so the last two texts do not differ in style
alone. -/
example : SameButStyle "ro49 aaaa\t1b31" "RO\u00a049AaAa1b31"
    ∧ ¬ SameButStyle "RO49é" "RO49É" := by
  rw [sameButStyle_iff, sameButStyle_iff]
  decide +kernel

end IbanWatch.Iban
