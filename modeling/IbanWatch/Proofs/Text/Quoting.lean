import IbanWatch.Proofs.Text.Numerals
import IbanWatch.Text.Quoted
import Mathlib.Data.List.TakeWhile

/-!
# Quoted text in a line

A line of a log is cut short, or made to look like two, by a control character or a separator of
lines.  Between quotes there is no such character, and what is quoted can be read back: each
character has an escape of its own, which begins otherwise than the closing quote.  So two texts
that are quoted in one place, with anything behind them, are equal when the lines are.

## Main definitions

* `IsControl`, `IsLineBreak`, `Disturbs` — the characters that could disturb a line.
* `Clean` — a row of characters without any of these.
* `Escapes` — how a character may stand between quotes.
* `unescape` — the first character of a quoted text, read back from its escape.

## Main results

* `not_disturbs_of_isShown` — what is shown as it is disturbs no line.
* `clean_quoted`, `clean_quotedChar` — between quotes nothing disturbs the line.
* `escapes_escape` — the four ways in which a character may stand between quotes.
* `Escapes.unescape_append` — an escape is read back as its character.
* `quoted_append_inj` — **a quoted text at the head of a line is known from the line**.
-/

namespace IbanWatch.Text

/-! ### Characters that disturb a line -/

/-- The character is a control character: its general category is `Cc`. -/
def IsControl (c : Char) : Prop := c.toNat ≤ 0x1F ∨ 0x7F ≤ c.toNat ∧ c.toNat ≤ 0x9F

/-- The character is the separator of lines or the separator of paragraphs: its general category is
`Zl` or `Zp`. -/
def IsLineBreak (c : Char) : Prop := c.toNat = 0x2028 ∨ c.toNat = 0x2029

/-- The character could disturb a line of text. -/
def Disturbs (c : Char) : Prop := IsControl c ∨ IsLineBreak c

instance (c : Char) : Decidable (IsControl c) := by
  unfold IsControl
  infer_instance

instance (c : Char) : Decidable (IsLineBreak c) := by
  unfold IsLineBreak
  infer_instance

instance (c : Char) : Decidable (Disturbs c) := by
  unfold Disturbs
  infer_instance

/-- None of the characters disturbs a line. -/
def Clean (cs : List Char) : Prop := ∀ c ∈ cs, ¬ Disturbs c

-- The characters of the row are asked, and not all characters there are.
instance (cs : List Char) : Decidable (Clean cs) := List.decidableBAll (fun c => ¬ Disturbs c) cs

@[simp] theorem clean_nil : Clean [] := nofun

@[simp] theorem clean_cons {c : Char} {cs : List Char} :
    Clean (c :: cs) ↔ ¬ Disturbs c ∧ Clean cs :=
  List.forall_mem_cons

@[simp] theorem clean_append {cs ds : List Char} : Clean (cs ++ ds) ↔ Clean cs ∧ Clean ds :=
  List.forall_mem_append

theorem Clean.sublist {cs ds : List Char} (h : Clean ds) (hsub : cs.Sublist ds) : Clean cs :=
  fun c hc => h c (hsub.subset hc)

/-- **What is shown as it is disturbs no line**: all that could is in the table of hidden ones. -/
theorem not_disturbs_of_isShown {c : Char} (h : isShown c = true) : ¬ Disturbs c := by
  have hcontrols : ∀ n ≤ 0x9F, (n ≤ 0x1F ∨ 0x7F ≤ n) → hiddenRanges.contains n = true := by
    decide +kernel
  have hbreaks : ∀ n ∈ [0x2028, 0x2029], hiddenRanges.contains n = true := by decide +kernel
  intro hc
  have hhidden : hiddenRanges.contains c.toNat = true
      ∧ ¬ (0x20 ≤ c.toNat ∧ c.toNat ≤ 0x7E) := by
    rcases hc with (hlow | ⟨hlow, hhigh⟩) | (hline | hparagraph)
    · exact ⟨hcontrols _ (by omega) (.inl hlow), by omega⟩
    · exact ⟨hcontrols _ hhigh (.inr hlow), by omega⟩
    · exact ⟨hbreaks _ (by simp [hline]), by omega⟩
    · exact ⟨hbreaks _ (by simp [hparagraph]), by omega⟩
  obtain ⟨htable, hascii⟩ := hhidden
  simp only [isShown, htable, Bool.true_or, Bool.not_true, Bool.or_false, Bool.and_eq_true,
    decide_eq_true_eq] at h
  exact hascii h

/-! ### Numerals -/

/-- A numeral consists of digits. -/
theorem exists_digit_of_mem_toDigits {base n : Nat} (hbase : 1 < base) {c : Char}
    (hc : c ∈ Nat.toDigits base n) : ∃ d < base, c = Nat.digitChar d := by
  induction n using Nat.strongRecOn with
  | ind n ih =>
    rw [Nat.toDigits_eq_if hbase] at hc
    by_cases hn : n < base
    · rw [if_pos hn] at hc
      exact ⟨n, hn, List.mem_singleton.mp hc⟩
    · rw [if_neg hn] at hc
      rcases List.mem_append.mp hc with hc | hc
      · exact ih (n / base) (Nat.div_lt_self (by omega) hbase) hc
      · exact ⟨n % base, Nat.mod_lt n (by omega), List.mem_singleton.mp hc⟩

theorem clean_toDigits {base : Nat} (hbase : 1 < base) (hle : base ≤ 16) (n : Nat) :
    Clean (Nat.toDigits base n) := by
  have hall : ∀ d < 16, ¬ Disturbs (Nat.digitChar d) := by decide
  intro c hc
  obtain ⟨d, hd, rfl⟩ := exists_digit_of_mem_toDigits hbase hc
  exact hall d (by omega)

theorem clean_repr (n : Nat) : Clean n.repr.toList := by
  rw [Nat.toList_repr]
  exact clean_toDigits (by decide) (by decide) n

theorem clean_repr_int (n : Int) : Clean n.repr.toList := by
  rw [Int.repr_eq_if]
  split
  · exact clean_repr _
  · rw [String.toList_append, clean_append]
    exact ⟨by decide, clean_repr _⟩

theorem numeralValue_hexDigits (n : Nat) : numeralValue 16 (hexDigits n) = n :=
  numeralValue_toDigits (by decide) (by decide) n

/-! ### Escapes -/

/-- The characters with a short escape, and the letters behind the backslash. -/
def shortEscapes : List (Char × Char) :=
  [('\x00', '0'), ('\t', 't'), ('\n', 'n'), ('\r', 'r'), ('\\', '\\')]

theorem mem_shortEscapes {c l : Char} (h : escapeLetter? c = some l) : (c, l) ∈ shortEscapes := by
  unfold escapeLetter? at h
  split at h
  · cases h; decide
  · cases h; decide
  · cases h; decide
  · cases h; decide
  · cases h; decide
  · cases h

/-- How a character may stand between two quotes `q`. -/
inductive Escapes (q c : Char) : List Char → Prop where
  /-- By a letter. -/
  | letter {l : Char} (h : (c, l) ∈ shortEscapes) : Escapes q c ['\\', l]
  /-- As a quote behind a backslash. -/
  | quote (h : c = q) : Escapes q c ['\\', c]
  /-- As it is. -/
  | shown (hquote : c ≠ q) (hbackslash : c ≠ '\\') (h : isShown c = true) : Escapes q c [c]
  /-- By its code point. -/
  | codePoint : Escapes q c (codePointEscape c)

theorem escapes_escape (q c : Char) : Escapes q c (escape q c) := by
  rw [escape]
  cases hletter : escapeLetter? c with
  | some l => exact .letter (mem_shortEscapes hletter)
  | none =>
    have hbackslash : c ≠ '\\' := by
      rintro rfl
      cases hletter
    by_cases hq : c = q
    · simp only [if_pos hq]
      exact .quote hq
    simp only [if_neg hq]
    by_cases hshown : isShown c = true
    · rw [if_pos hshown]
      exact .shown hq hbackslash hshown
    · rw [if_neg hshown]
      exact .codePoint

theorem clean_codePointEscape (c : Char) : Clean (codePointEscape c) := by
  have hhead : Clean ['\\', 'u', '{'] := by decide
  have hend : Clean ['}'] := by decide
  have hdigits : Clean (hexDigits c.toNat) := clean_toDigits (by decide) (by decide) _
  exact clean_append.mpr ⟨hhead, clean_append.mpr ⟨hdigits, hend⟩⟩

/-- **An escape disturbs no line**, whatever it is an escape of. -/
theorem Escapes.clean {q c : Char} {cs : List Char} (hq : ¬ Disturbs q) (hcs : Escapes q c cs) :
    Clean cs := by
  have hbackslash : ¬ Disturbs '\\' := by decide
  have hletters : ∀ entry ∈ shortEscapes, ¬ Disturbs entry.2 := by decide
  cases hcs with
  | letter h => simp [hbackslash, hletters _ h]
  | quote h => simp [hbackslash, h, hq]
  | shown hquote hne h => simp [not_disturbs_of_isShown h]
  | codePoint => exact clean_codePointEscape c

theorem clean_quotedChar (c : Char) : Clean (quotedChar c).toList := by
  have hquote : ¬ Disturbs '\'' := by decide
  rw [quotedChar, String.toList_ofList]
  simp [hquote, (escapes_escape '\'' c).clean hquote]

/-- **Between quotes nothing disturbs the line.** -/
theorem clean_quoted (s : String) : Clean (quoted s).toList := by
  have hquote : ¬ Disturbs '"' := by decide
  have hbody : Clean (s.toList.flatMap (escape '"')) := by
    intro c hc
    obtain ⟨d, -, hd⟩ := List.mem_flatMap.mp hc
    exact (escapes_escape '"' d).clean hquote c hd
  rw [quoted, String.toList_ofList]
  simp [hquote, hbody]

/-! ### Reading back -/

/-- What a letter behind a backslash stands for. -/
def letterMeaning : Char → Char
  | '0' => '\x00'
  | 't' => '\t'
  | 'n' => '\n'
  | 'r' => '\r'
  | c => c

/-- The first character of a quoted text, read back from its escape, and what is behind it. -/
def unescape : List Char → Option (Char × List Char)
  | [] => none
  | '\\' :: 'u' :: '{' :: rest =>
    let digits := rest.takeWhile (· != '}')
    some (Char.ofNat (numeralValue 16 digits), (rest.dropWhile (· != '}')).tail)
  | '\\' :: l :: rest => some (letterMeaning l, rest)
  | c :: rest => some (c, rest)

theorem unescape_codePointEscape (c : Char) (rest : List Char) :
    unescape (codePointEscape c ++ rest) = some (c, rest) := by
  have hdigits : ∀ d ∈ hexDigits c.toNat, (d != '}') = true := by
    have hall : ∀ d < 16, (Nat.digitChar d != '}') = true := by decide
    intro d hd
    obtain ⟨n, hn, rfl⟩ := exists_digit_of_mem_toDigits (by decide) hd
    exact hall n hn
  have hsplit : codePointEscape c ++ rest
      = '\\' :: 'u' :: '{' :: (hexDigits c.toNat ++ '}' :: rest) := by
    simp [codePointEscape]
  rw [hsplit, unescape]
  -- The digits reach up to the closing brace, which is none of them.
  rw [List.takeWhile_append_of_pos hdigits, List.dropWhile_append_of_pos hdigits]
  simp [numeralValue_hexDigits]

/-- What begins with no backslash is read back as it is. -/
theorem unescape_cons {c : Char} (hc : c ≠ '\\') (rest : List Char) :
    unescape (c :: rest) = some (c, rest) := by
  unfold unescape
  split <;> simp_all

/-- **An escape is read back as its character**, whatever follows. -/
theorem Escapes.unescape_append {c : Char} {cs : List Char} (hcs : Escapes '"' c cs)
    (rest : List Char) : unescape (cs ++ rest) = some (c, rest) := by
  have hletters : ∀ entry ∈ shortEscapes, entry.2 ≠ 'u' ∧ letterMeaning entry.2 = entry.1 := by
    decide
  cases hcs with
  | letter h =>
    obtain ⟨hu, hmeaning⟩ := hletters _ h
    rw [List.cons_append, List.cons_append, List.nil_append]
    simp [unescape, hu, hmeaning]
  | quote h =>
    subst h
    rfl
  | shown hquote hbackslash h => exact unescape_cons hbackslash rest
  | codePoint => exact unescape_codePointEscape c rest

/-- No escape begins with the closing quote. -/
theorem escape_append_ne (c : Char) (rest behind : List Char) :
    escape '"' c ++ rest ≠ '"' :: behind := by
  intro h
  have hread := (escapes_escape '"' c).unescape_append rest
  rw [h, unescape_cons (by decide)] at hread
  -- Such an escape would stand for the quote itself, which is escaped otherwise.
  cases hread
  simp [escape, escapeLetter?] at h

theorem flatMap_escape_inj {s t : List Char} {x y : List Char}
    (h : s.flatMap (escape '"') ++ '"' :: x = t.flatMap (escape '"') ++ '"' :: y) :
    s = t ∧ x = y := by
  induction s generalizing t with
  | nil =>
    cases t with
    | nil => exact ⟨rfl, (List.cons.inj h).2⟩
    | cons d t =>
      rw [List.flatMap_cons, List.append_assoc] at h
      exact absurd h.symm (escape_append_ne d _ _)
  | cons c s ih =>
    cases t with
    | nil =>
      rw [List.flatMap_cons, List.append_assoc] at h
      exact absurd h (escape_append_ne c _ _)
    | cons d t =>
      rw [List.flatMap_cons, List.flatMap_cons, List.append_assoc, List.append_assoc] at h
      -- Both are read back, which gives the two characters and what is behind them.
      have hc := (escapes_escape '"' c).unescape_append (s.flatMap (escape '"') ++ '"' :: x)
      rw [h, (escapes_escape '"' d).unescape_append] at hc
      obtain ⟨hcd, hrest⟩ := Prod.mk.inj (Option.some.inj hc)
      obtain ⟨hst, hxy⟩ := ih hrest.symm
      exact ⟨by rw [hcd, hst], hxy⟩

/-- **A quoted text at the head of a line is known from the line**, and so is what is behind it. -/
theorem quoted_append_inj {s t : String} {x y : List Char}
    (h : (quoted s).toList ++ x = (quoted t).toList ++ y) : s = t ∧ x = y := by
  rw [quoted, quoted, String.toList_ofList, String.toList_ofList, List.cons_append,
    List.cons_append, List.append_assoc, List.append_assoc] at h
  obtain ⟨hst, hxy⟩ := flatMap_escape_inj (List.cons.inj h).2
  exact ⟨String.toList_inj.mp hst, hxy⟩

end IbanWatch.Text
