import IbanWatch.Proofs.Json.Grammar
import IbanWatch.Proofs.Text.Encoding

/-!
# Reading strings

The reader of a string works on bytes and asks for valid UTF-8 only at the end, while the grammar
spells characters.  The two meet in the bytes that are resolved: a byte that stands for itself gives
that byte, and an escape gives all bytes of its character.  When these bytes encode a row of
characters, no escape can lie inside the encoding of another character, since no encoding begins
with a continuation byte; so the bytes between the quotes fall apart into spelled characters.

## Main definitions

* `Resolves` — what the bytes between the quotes resolve to, before any character is told.

## Main results

* `hexWord?_eq_some_iff` — four digits are read as the number they spell.
* `readTextBytes_of_spellsAll`, `resolves_of_readTextBytes` — the reader takes what is spelled, and
  resolves what it takes.
* `spellsAll_of_resolves` — what resolves to characters spells them.
* `readText_eq_ok_iff` — **a string is read just when it is spelled.**
-/

namespace IbanWatch.Json

open Text

/-! ### Hexadecimal digits -/

/-- The value of a hexadecimal digit, for every byte. -/
theorem hexValue?_eq (b : UInt8) :
    hexValue? b = if b.toNat < 128 ∧ isHexDigit (asciiChar b) = true
      then some (Text.digitValue (asciiChar b)) else none := by
  have hall : ∀ n : Fin 256, hexValue? (UInt8.ofNat n)
      = if (UInt8.ofNat n).toNat < 128 ∧ isHexDigit (asciiChar (UInt8.ofNat n)) = true
        then some (Text.digitValue (asciiChar (UInt8.ofNat n))) else none := by
    decide +kernel
  have hb := hall ⟨b.toNat, b.toNat_lt⟩
  rwa [UInt8.ofNat_toNat] at hb

theorem hexValue?_eq_some {b : UInt8} {n : Nat} (h : hexValue? b = some n) :
    b.toNat < 128 ∧ isHexDigit (asciiChar b) = true ∧ Text.digitValue (asciiChar b) = n := by
  rw [hexValue?_eq] at h
  split at h
  · next hb => exact ⟨hb.1, hb.2, Option.some.inj h⟩
  · cases h

/-- A hexadecimal digit is a character of ASCII, and its value is below 16. -/
theorem toNat_lt_of_isHexDigit {c : Char} (h : isHexDigit c = true) :
    c.toNat < 128 ∧ Text.digitValue c < 16 := by
  simp only [isHexDigit, Bool.or_eq_true, Bool.and_eq_true, decide_eq_true_eq, Char.le_def,
    UInt32.le_iff_toNat_le] at h
  have hn : c.toNat = c.val.toNat := rfl
  simp only [Text.digitValue, Char.le_def, UInt32.le_iff_toNat_le, hn]
  simp only [Char.reduceVal, UInt32.reduceToNat] at h ⊢
  constructor
  · omega
  · split
    · omega
    split <;> omega

theorem hexValue?_ofNat {c : Char} (h : isHexDigit c = true) :
    hexValue? (UInt8.ofNat c.toNat) = some (Text.digitValue c) := by
  have hc := (toNat_lt_of_isHexDigit h).1
  have hb : (UInt8.ofNat c.toNat).toNat < 128 := by
    rw [UInt8.toNat_ofNat', Nat.mod_eq_of_lt (by omega)]
    exact hc
  rw [hexValue?_eq, asciiChar_ofNat hc, if_pos ⟨hb, h⟩]

/-- The number that four digits spell. -/
theorem numeralValue_four (a b c d : Char) :
    numeralValue 16 [a, b, c, d] = ((Text.digitValue a * 16 + Text.digitValue b) * 16
      + Text.digitValue c) * 16 + Text.digitValue d := by
  simp [numeralValue]

/-- Four hexadecimal digits spell a number of 16 bits. -/
theorem IsHexWord.lt {digits : List Char} {n : Nat} (h : IsHexWord digits n) : n < 0x10000 := by
  obtain ⟨hlength, hall, hvalue⟩ := h
  match digits, hlength with
  | [a, b, c, d], _ =>
    simp only [List.forall_mem_cons] at hall
    obtain ⟨ha, hb, hc, hd, -⟩ := hall
    have ha := (toNat_lt_of_isHexDigit ha).2
    have hb := (toNat_lt_of_isHexDigit hb).2
    have hc := (toNat_lt_of_isHexDigit hc).2
    have hd := (toNat_lt_of_isHexDigit hd).2
    rw [numeralValue_four] at hvalue
    omega

/-- Four digits that spell a number are read as that number. -/
theorem IsHexWord.exists_hexWord? {digits : List Char} {n : Nat} (h : IsHexWord digits n) :
    ∃ a b c d, encoded digits = [a, b, c, d] ∧ hexWord? a b c d = some n := by
  obtain ⟨hlength, hall, hvalue⟩ := h
  match digits, hlength with
  | [a, b, c, d], _ =>
    simp only [List.forall_mem_cons] at hall
    obtain ⟨ha, hb, hc, hd, -⟩ := hall
    refine ⟨UInt8.ofNat a.toNat, UInt8.ofNat b.toNat, UInt8.ofNat c.toNat, UInt8.ofNat d.toNat,
      ?_, ?_⟩
    · rw [encoded_cons_of_lt (toNat_lt_of_isHexDigit ha).1,
        encoded_cons_of_lt (toNat_lt_of_isHexDigit hb).1,
        encoded_cons_of_lt (toNat_lt_of_isHexDigit hc).1,
        encoded_cons_of_lt (toNat_lt_of_isHexDigit hd).1]
      rfl
    · simp [hexWord?, hexValue?_ofNat ha, hexValue?_ofNat hb, hexValue?_ofNat hc,
        hexValue?_ofNat hd, ← hvalue, numeralValue_four]

/-- Four bytes that are read as a number are digits that spell it. -/
theorem isHexWord_of_hexWord? {a b c d : UInt8} {n : Nat} (h : hexWord? a b c d = some n) :
    ∃ digits, encoded digits = [a, b, c, d] ∧ IsHexWord digits n := by
  simp only [hexWord?, Option.bind_eq_bind, Option.bind_eq_some_iff, Option.pure_def] at h
  obtain ⟨va, ha, vb, hb, vc, hc, vd, hd, hn⟩ := h
  obtain ⟨hla, hda, rfl⟩ := hexValue?_eq_some ha
  obtain ⟨hlb, hdb, rfl⟩ := hexValue?_eq_some hb
  obtain ⟨hlc, hdc, rfl⟩ := hexValue?_eq_some hc
  obtain ⟨hld, hdd, rfl⟩ := hexValue?_eq_some hd
  refine ⟨[a, b, c, d].map asciiChar, encoded_map_asciiChar ?_, rfl, ?_, ?_⟩
  · simp only [List.forall_mem_cons]
    exact ⟨hla, hlb, hlc, hld, nofun⟩
  · simp only [List.map_cons, List.map_nil, List.forall_mem_cons]
    exact ⟨hda, hdb, hdc, hdd, nofun⟩
  · simp only [List.map_cons, List.map_nil, numeralValue_four]
    exact Option.some.inj hn

/-! ### One step of the reader -/

/-- Whether the byte stands for itself between quotes. -/
def IsPlainByte (b : UInt8) : Prop := ¬ b < 32 ∧ b ≠ 34 ∧ b ≠ 92

theorem readTextBytes_quote (reversed rest : Bytes) :
    readTextBytes reversed (34 :: rest) = .ok (reversed.reverse, rest) := by
  rw [readTextBytes]

theorem readTextBytes_byte {b : UInt8} (h : IsPlainByte b) (reversed s : Bytes) :
    readTextBytes reversed (b :: s) = readTextBytes (b :: reversed) s := by
  obtain ⟨hb, hquote, hslash⟩ := h
  rw [readTextBytes]
  · rw [if_neg hb]
  all_goals simp_all

theorem readTextBytes_bytes {t : Bytes} (h : ∀ b ∈ t, IsPlainByte b) (reversed s : Bytes) :
    readTextBytes reversed (t ++ s) = readTextBytes (t.reverse ++ reversed) s := by
  induction t generalizing reversed with
  | nil => rfl
  | cons b t ih =>
    rw [List.forall_mem_cons] at h
    rw [List.cons_append, readTextBytes_byte h.1, ih h.2, List.reverse_cons, List.append_assoc]
    rfl

theorem readTextBytes_short {letter b : UInt8} (h : escapedByte? letter = some b)
    (reversed s : Bytes) :
    readTextBytes reversed (92 :: letter :: s) = readTextBytes (b :: reversed) s := by
  have hu : letter ≠ 117 := by
    rintro rfl
    cases h
  rw [readTextBytes]
  · rw [h]
  all_goals simp_all

theorem readTextBytes_code {a b c d : UInt8} {n : Nat} (h : hexWord? a b c d = some n)
    (htrailing : isTrailingHalf n = false) (hleading : isLeadingHalf n = false)
    (reversed s : Bytes) :
    readTextBytes reversed (92 :: 117 :: a :: b :: c :: d :: s)
      = readTextBytes (pushCodePoint n reversed) s := by
  rw [readTextBytes]
  simp [h, htrailing, hleading]

theorem readTextBytes_pair {a b c d a' b' c' d' : UInt8} {n n' : Nat}
    (h : hexWord? a b c d = some n) (h' : hexWord? a' b' c' d' = some n')
    (hleading : isLeadingHalf n = true) (htrailing : isTrailingHalf n' = true)
    (reversed s : Bytes) :
    readTextBytes reversed
        (92 :: 117 :: a :: b :: c :: d :: 92 :: 117 :: a' :: b' :: c' :: d' :: s)
      = readTextBytes (pushCodePoint (joinHalves n n') reversed) s := by
  have hn : isTrailingHalf n = false := by
    simp only [isLeadingHalf, isTrailingHalf, Bool.and_eq_true, Bool.and_eq_false_iff,
      decide_eq_true_eq, decide_eq_false_iff_not] at hleading ⊢
    omega
  rw [readTextBytes]
  simp [h, h', hleading, htrailing, hn]

/-! ### What is spelled is read -/

theorem isPlainByte_of_mem {c : Char} (hc : ' ' ≤ c) (hquote : c ≠ '"') (hslash : c ≠ '\\') :
    ∀ b ∈ String.utf8EncodeChar c, IsPlainByte b := by
  have hplain : ∀ b : UInt8, 128 ≤ b.toNat → IsPlainByte b := by
    intro b hb
    refine ⟨?_, ?_, ?_⟩
    · rw [UInt8.lt_iff_toNat_lt]
      change ¬ b.toNat < 32
      omega
    · rintro rfl
      exact absurd hb (by decide)
    · rintro rfl
      exact absurd hb (by decide)
  rcases encoded_char_cases c with ⟨hlt, he⟩ | ⟨-, b, t, he, hb, -, ht⟩
  · -- A single byte is the code point, so it is neither below the space nor one of the two.
    have hb : ∀ {d : Char}, d.toNat < 128 → c ≠ d →
        UInt8.ofNat c.toNat ≠ UInt8.ofNat d.toNat := by
      intro d hd hne h
      exact hne (by rw [← asciiChar_ofNat hlt, h, asciiChar_ofNat hd])
    rw [he]
    intro b hmem
    obtain rfl := List.mem_singleton.mp hmem
    refine ⟨?_, hb (by decide) hquote, hb (by decide) hslash⟩
    rw [UInt8.lt_iff_toNat_lt, UInt8.toNat_ofNat', Nat.mod_eq_of_lt (by omega)]
    exact Nat.not_lt.mpr hc
  · rw [he, List.forall_mem_cons]
    refine ⟨hplain b (by omega), fun x hx => hplain x ?_⟩
    have := ht x hx
    simp only [isContinuation, Bool.and_eq_true, decide_eq_true_eq, UInt8.le_iff_toNat_le,
      UInt8.reduceToNat] at this
    exact this.1

theorem escapedByte?_of_mem {letter c : Char} (h : (letter, c) ∈ shortEscapes) :
    letter.toNat < 128 ∧ c.toNat < 128
      ∧ escapedByte? (UInt8.ofNat letter.toNat) = some (UInt8.ofNat c.toNat) := by
  have hall : ∀ p ∈ shortEscapes, p.1.toNat < 128 ∧ p.2.toNat < 128
      ∧ escapedByte? (UInt8.ofNat p.1.toNat) = some (UInt8.ofNat p.2.toNat) := by decide
  exact hall _ h

theorem pushCodePoint_toNat (c : Char) (reversed : Bytes) :
    pushCodePoint c.toNat reversed = (String.utf8EncodeChar c).reverse ++ reversed := by
  rw [pushCodePoint, Char.ofNat_toNat]

theorem isHalf_toNat (c : Char) :
    isTrailingHalf c.toNat = false ∧ isLeadingHalf c.toNat = false := by
  have hv : c.toNat < 0xD800 ∨ (0xDFFF < c.toNat ∧ c.toNat < 0x110000) := c.valid
  simp only [isTrailingHalf, isLeadingHalf, Bool.and_eq_false_iff, decide_eq_false_iff_not]
  omega

/-- **A character is read however it is spelled.** -/
theorem readTextBytes_of_spells {w : List Char} {c : Char} (h : Spells w c)
    (reversed s : Bytes) :
    readTextBytes reversed (encoded w ++ s)
      = readTextBytes ((String.utf8EncodeChar c).reverse ++ reversed) s := by
  have hslash : ∀ t, encoded ('\\' :: t) = 92 :: encoded t :=
    fun t => encoded_cons_of_lt (by decide) t
  have hu : ∀ t, encoded ('u' :: t) = 117 :: encoded t :=
    fun t => encoded_cons_of_lt (by decide) t
  cases h with
  | plain hc hquote hb =>
    rw [encoded_cons, encoded_nil, List.append_nil]
    exact readTextBytes_bytes (isPlainByte_of_mem hc hquote hb) reversed s
  | short h =>
    obtain ⟨hl, hc, he⟩ := escapedByte?_of_mem h
    rw [hslash, encoded_cons_of_lt hl, utf8EncodeChar_of_lt hc]
    exact readTextBytes_short he reversed s
  | code h =>
    obtain ⟨a, b, c', d, hdigits, hword⟩ := h.exists_hexWord?
    obtain ⟨htrailing, hleading⟩ := isHalf_toNat c
    rw [hslash, hu, hdigits, ← pushCodePoint_toNat]
    exact readTextBytes_code hword htrailing hleading reversed s
  | @pair first second high low _ hfirst hhigh hsecond hlow hc =>
    obtain ⟨a, b, c', d, hdigits, hword⟩ := hfirst.exists_hexWord?
    obtain ⟨a', b', c'', d', hdigits', hword'⟩ := hsecond.exists_hexWord?
    have hleading : isLeadingHalf high = true := by simpa [isLeadingHalf] using hhigh
    have htrailing : isTrailingHalf low = true := by simpa [isTrailingHalf] using hlow
    have hjoin : joinHalves high low = c.toNat := by rw [joinHalves, hc]; omega
    rw [hslash, hu, encoded_append, hslash, hu, hdigits, hdigits', ← pushCodePoint_toNat, ← hjoin]
    exact readTextBytes_pair hword hword' hleading htrailing reversed s

/-- **What is spelled between quotes is read.** -/
theorem readTextBytes_of_spellsAll {inner cs : List Char} (h : SpellsAll inner cs)
    (reversed rest : Bytes) :
    readTextBytes reversed (encoded inner ++ 34 :: rest)
      = .ok (reversed.reverse ++ encoded cs, rest) := by
  induction h generalizing reversed with
  | nil =>
    rw [encoded_nil, List.append_nil]
    exact readTextBytes_quote reversed rest
  | cons hc _ ih =>
    rw [encoded_append, List.append_assoc, readTextBytes_of_spells hc, ih, encoded_cons,
      List.reverse_append, List.reverse_reverse, List.append_assoc]

/-! ### What is read resolves -/

/-- What the bytes between the quotes resolve to: a byte that stands for itself to that byte, and an
escape to the bytes of its character. -/
inductive Resolves : Bytes → Bytes → Prop
  | nil : Resolves [] []
  | byte {b : UInt8} {s t : Bytes} (hb : IsPlainByte b) (h : Resolves s t) :
      Resolves (b :: s) (b :: t)
  | escape {w : List Char} {c : Char} {s t : Bytes} (hw : Spells ('\\' :: w) c)
      (h : Resolves s t) : Resolves (encoded ('\\' :: w) ++ s) (String.utf8EncodeChar c ++ t)

theorem mem_shortEscapes_of_escapedByte? {letter b : UInt8} (h : escapedByte? letter = some b) :
    (asciiChar letter, asciiChar b) ∈ shortEscapes ∧ letter.toNat < 128 ∧ b.toNat < 128 := by
  unfold escapedByte? at h
  split at h <;> first | (cases h; decide) | cases h

/-- An escape by a code point that is no half of a pair spells its character. -/
theorem spells_of_code {a b c d : UInt8} {n : Nat} (h : hexWord? a b c d = some n)
    (htrailing : ¬ isTrailingHalf n = true) (hleading : ¬ isLeadingHalf n = true) :
    ∃ w, encoded ('\\' :: w) = [92, 117, a, b, c, d] ∧ Spells ('\\' :: w) (Char.ofNat n) := by
  obtain ⟨digits, hdigits, hword⟩ := isHexWord_of_hexWord? h
  have hlt := hword.lt
  -- A number of four digits that is no half of a pair is the code point of a character.
  have hv : n.isValidChar := by
    simp only [isTrailingHalf, isLeadingHalf, Bool.and_eq_true, decide_eq_true_eq]
      at htrailing hleading
    show n < 0xD800 ∨ (0xDFFF < n ∧ n < 0x110000)
    omega
  refine ⟨'u' :: digits, ?_, .code ?_⟩
  · rw [encoded_cons_of_lt (by decide), encoded_cons_of_lt (by decide), hdigits]
    rfl
  · rw [toNat_ofNat_of_isValidChar hv]
    exact hword

/-- An escape by a surrogate pair spells its character. -/
theorem spells_of_pair {a b c d a' b' c' d' : UInt8} {n n' : Nat}
    (h : hexWord? a b c d = some n) (h' : hexWord? a' b' c' d' = some n')
    (hleading : isLeadingHalf n = true) (htrailing : isTrailingHalf n' = true) :
    ∃ w, encoded ('\\' :: w) = [92, 117, a, b, c, d, 92, 117, a', b', c', d']
      ∧ Spells ('\\' :: w) (Char.ofNat (joinHalves n n')) := by
  obtain ⟨first, hfirst, hword⟩ := isHexWord_of_hexWord? h
  obtain ⟨second, hsecond, hword'⟩ := isHexWord_of_hexWord? h'
  simp only [isLeadingHalf, isTrailingHalf, Bool.and_eq_true, decide_eq_true_eq]
    at hleading htrailing
  have hv : (joinHalves n n').isValidChar := by
    show joinHalves n n' < 0xD800 ∨ (0xDFFF < joinHalves n n' ∧ joinHalves n n' < 0x110000)
    rw [joinHalves]
    omega
  refine ⟨'u' :: (first ++ '\\' :: 'u' :: second), ?_, .pair hword hleading hword' htrailing ?_⟩
  · rw [encoded_cons_of_lt (by decide), encoded_cons_of_lt (by decide), encoded_append, hfirst,
      encoded_cons_of_lt (by decide), encoded_cons_of_lt (by decide), hsecond]
    rfl
  · rw [toNat_ofNat_of_isValidChar hv, joinHalves]
    omega

/-- **What the reader takes resolves to what it finds.** -/
theorem resolves_of_readTextBytes {reversed s bytes rest : Bytes}
    (h : readTextBytes reversed s = .ok (bytes, rest)) :
    ∃ body t, s = body ++ 34 :: rest ∧ Resolves body t ∧ bytes = reversed.reverse ++ t := by
  -- Of the cases of the reader four go on with the text, and one ends it; all others fail.
  fun_induction readTextBytes reversed s with
  | case2 reversed rest' =>
    cases h
    exact ⟨[], [], rfl, .nil, (List.append_nil _).symm⟩
  | case6 reversed a b c d n hn _ hleading a' b' c' d' rest' n' hn' htrailing ih =>
    obtain ⟨w, hw, hspells⟩ := spells_of_pair hn hn' hleading htrailing
    obtain ⟨body, t, rfl, hbody, hbytes⟩ := ih h
    refine ⟨_, _, ?_, .escape hspells hbody, ?_⟩
    · rw [hw]
      rfl
    · rw [hbytes, pushCodePoint, List.reverse_append, List.reverse_reverse, List.append_assoc]
  | case13 reversed a b c d rest' n hn htrailing hleading ih =>
    obtain ⟨w, hw, hspells⟩ := spells_of_code hn htrailing hleading
    obtain ⟨body, t, rfl, hbody, rfl⟩ := ih h
    refine ⟨_, _, ?_, .escape hspells hbody, ?_⟩
    · rw [hw]
      rfl
    · rw [pushCodePoint, List.reverse_append, List.reverse_reverse, List.append_assoc]
  | case15 reversed letter rest' _ _ b hb ih =>
    obtain ⟨hmem, hletter, hlt⟩ := mem_shortEscapes_of_escapedByte? hb
    obtain ⟨body, t, rfl, hbody, rfl⟩ := ih h
    refine ⟨_, _, ?_, .escape (.short hmem) hbody, ?_⟩
    · rw [encoded_cons_of_lt (by decide), encoded_asciiChar_cons hletter]
      rfl
    · rw [utf8EncodeChar_of_lt (by rw [toNat_asciiChar hlt]; exact hlt), toNat_asciiChar hlt,
        UInt8.ofNat_toNat, List.reverse_cons, List.append_assoc]
  | case19 reversed b rest' hquote hu _ hl hend hb ih =>
    have hslash : b ≠ 92 := by
      rintro rfl
      cases rest' with
      | nil => exact hend rfl rfl
      | cons letter rest' => exact hl letter rest' rfl rfl
    obtain ⟨body, t, rfl, hbody, rfl⟩ := ih h
    refine ⟨b :: body, b :: t, rfl, .byte ⟨hb, hquote, hslash⟩ hbody, ?_⟩
    rw [List.reverse_cons, List.append_assoc]
    rfl
  | _ => cases h

/-! ### What resolves to characters spells them -/

/-- Nothing but itself resolves to a continuation byte. -/
theorem Resolves.of_continuation {s t u : Bytes} (h : Resolves s (t ++ u))
    (ht : ∀ b ∈ t, isContinuation b = true) : ∃ v, s = t ++ v ∧ Resolves v u := by
  induction t generalizing s with
  | nil => exact ⟨s, rfl, h⟩
  | cons b t ih =>
    rw [List.forall_mem_cons] at ht
    generalize hall : b :: t ++ u = all at h
    cases h with
    | nil => cases hall
    | @byte b' s' t' hb hrest =>
      obtain ⟨rfl, rfl⟩ := List.cons_eq_cons.mp hall
      obtain ⟨v, rfl, hv⟩ := ih hrest ht.2
      exact ⟨v, rfl, hv⟩
    | @escape w c s' t' hw hrest =>
      -- An escape gives a whole character, which does not begin with a continuation byte.
      cases hc : String.utf8EncodeChar c with
      | nil => exact absurd hc String.utf8EncodeChar_ne_nil
      | cons first more =>
        rw [hc] at hall
        obtain ⟨rfl, -⟩ := List.cons_eq_cons.mp hall
        rw [utf8EncodeChar_ne_continuation hc] at ht
        cases ht.1

/-- **What resolves to the bytes of some characters spells these characters.** -/
theorem spellsAll_of_resolves {cs : List Char} {body : Bytes} (h : Resolves body (encoded cs)) :
    ∃ inner, body = encoded inner ∧ SpellsAll inner cs := by
  induction cs generalizing body with
  | nil =>
    rw [encoded_nil] at h
    generalize hnil : ([] : Bytes) = t at h
    cases h with
    | nil => exact ⟨[], rfl, .nil⟩
    | byte => cases hnil
    | escape =>
      obtain ⟨he, -⟩ := List.append_eq_nil_iff.mp hnil.symm
      exact absurd he String.utf8EncodeChar_ne_nil
  | cons c cs ih =>
    rw [encoded_cons] at h
    generalize hall : String.utf8EncodeChar c ++ encoded cs = t at h
    cases h with
    | nil =>
      obtain ⟨he, -⟩ := List.append_eq_nil_iff.mp hall
      exact absurd he String.utf8EncodeChar_ne_nil
    | escape hw hrest =>
      -- An escape gives one whole character, which is the next one.
      obtain ⟨rfl, rfl⟩ := encoded_append_inj hall
      obtain ⟨inner, rfl, hinner⟩ := ih hrest
      exact ⟨_, (encoded_append _ _).symm, .cons hw hinner⟩
    | @byte b s' t' hb hrest =>
      -- The byte begins the encoding of the character, and the other bytes of it follow.
      obtain ⟨v, hs, hv, hplain⟩ : ∃ v, b :: s' = String.utf8EncodeChar c ++ v
          ∧ Resolves v (encoded cs) ∧ (' ' ≤ c ∧ c ≠ '"' ∧ c ≠ '\\') := by
        rcases encoded_char_cases c with ⟨hlt, he⟩ | ⟨hge, b', more, he, -, -, hmore⟩
        · rw [he] at hall
          obtain ⟨rfl, rfl⟩ := List.cons_eq_cons.mp hall
          refine ⟨s', by rw [he]; rfl, hrest, ?_⟩
          obtain ⟨hspace, hquote, hslash⟩ := hb
          refine ⟨?_, ?_, ?_⟩
          · rw [UInt8.lt_iff_toNat_lt, UInt8.toNat_ofNat', Nat.mod_eq_of_lt (by omega)] at hspace
            exact Nat.not_lt.mp hspace
          · rintro rfl
            exact hquote rfl
          · rintro rfl
            exact hslash rfl
        · rw [he] at hall
          obtain ⟨rfl, rfl⟩ := List.cons_eq_cons.mp hall
          obtain ⟨v, rfl, hv⟩ := hrest.of_continuation hmore
          refine ⟨v, by rw [he]; rfl, hv, ?_⟩
          refine ⟨?_, ?_, ?_⟩
          · show (' ' : Char).toNat ≤ c.toNat
            exact Nat.le_trans (by decide) hge
          · rintro rfl
            exact absurd hge (by decide)
          · rintro rfl
            exact absurd hge (by decide)
      obtain ⟨inner, rfl, hinner⟩ := ih hv
      refine ⟨_, ?_, .cons (.plain hplain.1 hplain.2.1 hplain.2.2) hinner⟩
      rw [hs, encoded_append, encoded_cons, encoded_nil, List.append_nil]

/-! ### Strings -/

/-- **A string is read just when it is spelled**, and what is left is what stands behind it. -/
theorem readText_eq_ok_iff {s rest : Bytes} {text : String} :
    readText s = .ok (text, rest)
      ↔ ∃ inner, s = encoded inner ++ 34 :: rest ∧ SpellsAll inner text.toList := by
  constructor
  · intro h
    cases hb : readTextBytes [] s with
    | error fault => simp [readText, hb, bind, Except.bind] at h
    | ok found =>
      obtain ⟨bytes, rest'⟩ := found
      simp only [readText, hb, bind, Except.bind] at h
      split at h
      · next text' htext =>
        cases h
        -- The bytes that were found are valid, so they are those of the text.
        obtain ⟨body, t, rfl, hbody, hbytes⟩ := resolves_of_readTextBytes hb
        rw [List.reverse_nil, List.nil_append] at hbytes
        obtain rfl : t = utf8 text := by rw [← hbytes]; exact eq_utf8_of_ofUtf8? htext
        obtain ⟨inner, rfl, hinner⟩ := spellsAll_of_resolves hbody
        exact ⟨inner, rfl, hinner⟩
      · cases h
  · rintro ⟨inner, rfl, hinner⟩
    have hb := readTextBytes_of_spellsAll hinner [] rest
    rw [List.reverse_nil, List.nil_append, ← utf8_eq_encoded] at hb
    simp [readText, hb, bind, Except.bind, ofUtf8?_utf8, pure, Except.pure]

end IbanWatch.Json
