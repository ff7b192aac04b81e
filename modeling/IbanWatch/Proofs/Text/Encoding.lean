import IbanWatch.Text.Utf8

/-!
# The encoding of characters

A row of characters is encoded one by one.  A character below 128 is one byte, its code point; every
other is a first byte and continuation bytes, all of them above 127.  So no encoding begins inside
another, and bytes that encode some characters do so in one way only.

## Main definitions

* `encoded` — the bytes of a row of characters.

## Main results

* `encoded_char_cases` — the bytes of a character.
* `encoded_append_inj` — where one character ends and the next begins.
* `encoded_injective` — different rows have different bytes.
-/

namespace IbanWatch.Text

/-- The characters in the UTF-8 encoding. -/
def encoded (s : List Char) : Bytes := s.flatMap String.utf8EncodeChar

@[simp] theorem encoded_nil : encoded [] = [] := rfl

@[simp] theorem encoded_append (s t : List Char) : encoded (s ++ t) = encoded s ++ encoded t :=
  List.flatMap_append

theorem encoded_cons (c : Char) (s : List Char) :
    encoded (c :: s) = String.utf8EncodeChar c ++ encoded s := rfl

theorem utf8_eq_encoded (s : String) : utf8 s = encoded s.toList := rfl

/-- A row of characters as a text. -/
theorem utf8_ofList (s : List Char) : utf8 (String.ofList s) = encoded s := by
  rw [utf8_eq_encoded, String.toList_ofList]

/-! ### The bytes of a character -/

theorem utf8EncodeChar_of_lt {c : Char} (h : c.toNat < 128) :
    String.utf8EncodeChar c = [UInt8.ofNat c.toNat] := by
  have hv : c.val.toNat ≤ 127 := Nat.le_of_lt_succ h
  simp only [String.utf8EncodeChar, if_pos hv]
  rfl

theorem encoded_cons_of_lt {c : Char} (h : c.toNat < 128) (s : List Char) :
    encoded (c :: s) = UInt8.ofNat c.toNat :: encoded s := by
  rw [encoded_cons, utf8EncodeChar_of_lt h]
  rfl

/-- A text between two characters below 128, such as quotes or brackets. -/
theorem encoded_between {c d : Char} (hc : c.toNat < 128) (hd : d.toNat < 128) (s : List Char)
    (rest : Bytes) : encoded (c :: (s ++ [d])) ++ rest
      = UInt8.ofNat c.toNat :: (encoded s ++ UInt8.ofNat d.toNat :: rest) := by
  rw [encoded_cons_of_lt hc, encoded_append, encoded_cons_of_lt hd, List.cons_append,
    List.append_assoc]
  rfl

/-- A character from 128 on is a first byte and continuation bytes. -/
theorem utf8EncodeChar_of_ge {c : Char} (h : 128 ≤ c.toNat) :
    ∃ b t, String.utf8EncodeChar c = b :: t ∧ 0xC0 ≤ b.toNat ∧ t ≠ []
      ∧ ∀ x ∈ t, isContinuation x = true := by
  have hcont : ∀ n, isContinuation (UInt8.ofNat (n % 64 + 128)) = true := by
    intro n
    have hn : n % 64 + 128 < 256 := by omega
    simp only [isContinuation, Bool.and_eq_true, decide_eq_true_eq, UInt8.le_iff_toNat_le,
      UInt8.toNat_ofNat', UInt8.reduceToNat]
    omega
  have hv : ¬ c.val.toNat ≤ 127 := by
    have : c.val.toNat = c.toNat := rfl
    omega
  simp only [String.utf8EncodeChar, if_neg hv]
  -- Two, three or four bytes.
  split
  · refine ⟨_, _, rfl, ?_, List.cons_ne_nil _ _, ?_⟩
    · rw [UInt8.toNat_ofNat']
      omega
    · simp only [List.mem_singleton, forall_eq]
      exact hcont _
  split
  · refine ⟨_, _, rfl, ?_, List.cons_ne_nil _ _, ?_⟩
    · rw [UInt8.toNat_ofNat']
      omega
    · simp only [List.forall_mem_cons]
      exact ⟨hcont _, hcont _, nofun⟩
  · refine ⟨_, _, rfl, ?_, List.cons_ne_nil _ _, ?_⟩
    · rw [UInt8.toNat_ofNat']
      omega
    · simp only [List.forall_mem_cons]
      exact ⟨hcont _, hcont _, hcont _, nofun⟩

/-- **The bytes of a character**: its code point alone, or a first byte and continuation bytes that
are all above 127. -/
theorem encoded_char_cases (c : Char) :
    (c.toNat < 128 ∧ String.utf8EncodeChar c = [UInt8.ofNat c.toNat])
      ∨ (128 ≤ c.toNat ∧ ∃ b t, String.utf8EncodeChar c = b :: t ∧ 0xC0 ≤ b.toNat ∧ t ≠ []
        ∧ ∀ x ∈ t, isContinuation x = true) := by
  rcases Nat.lt_or_ge c.toNat 128 with h | h
  · exact .inl ⟨h, utf8EncodeChar_of_lt h⟩
  · exact .inr ⟨h, utf8EncodeChar_of_ge h⟩

/-- No character begins with a continuation byte. -/
theorem utf8EncodeChar_ne_continuation {c : Char} {b : UInt8} {t : Bytes}
    (h : String.utf8EncodeChar c = b :: t) : isContinuation b = false := by
  have hb : b.toNat < 128 ∨ 0xC0 ≤ b.toNat := by
    rcases encoded_char_cases c with ⟨hc, he⟩ | ⟨-, b', t', he, hb, -⟩
    · rw [h] at he
      obtain ⟨rfl, -⟩ := List.cons_eq_cons.mp he
      rw [UInt8.toNat_ofNat']
      omega
    · rw [h] at he
      obtain ⟨rfl, -⟩ := List.cons_eq_cons.mp he
      exact .inr hb
  simp only [isContinuation, Bool.and_eq_false_iff, decide_eq_false_iff_not,
    UInt8.le_iff_toNat_le, UInt8.reduceToNat]
  omega

/-- If the code points are not below a bound, no byte is, as long as that is a bound on the code
points of single bytes. -/
theorem le_of_mem_encoded {n : Nat} (hn : n ≤ 128) {s : List Char} (h : ∀ c ∈ s, n ≤ c.toNat) :
    ∀ b ∈ encoded s, n ≤ b.toNat := by
  intro b hb
  obtain ⟨c, hc, hb⟩ := List.mem_flatMap.mp hb
  have hle := h c hc
  rcases encoded_char_cases c with ⟨hlt, he⟩ | ⟨-, b', t, he, hb', -, ht⟩
  · rw [he] at hb
    obtain rfl := List.mem_singleton.mp hb
    rw [UInt8.toNat_ofNat', Nat.mod_eq_of_lt (by omega)]
    exact hle
  · rw [he] at hb
    rcases List.mem_cons.mp hb with rfl | hb
    · omega
    · have hcont := ht b hb
      simp only [isContinuation, Bool.and_eq_true, decide_eq_true_eq, UInt8.le_iff_toNat_le,
        UInt8.reduceToNat] at hcont
      omega

/-! ### Where a character ends -/

/-- **Where one character ends and the next begins** is told by the bytes. -/
theorem encoded_append_inj {c d : Char} {s t : Bytes}
    (h : String.utf8EncodeChar c ++ s = String.utf8EncodeChar d ++ t) : c = d ∧ s = t := by
  -- The decoder of the library finds the first character, whatever comes behind it.
  have hdecode : ∀ (c : Char) (s : Bytes),
      (String.utf8EncodeChar c ++ s).toByteArray.utf8DecodeChar? 0 = some c := by
    intro c s
    rw [List.toByteArray_append]
    exact ByteArray.utf8DecodeChar?_utf8EncodeChar_append
  have hc : some c = some d := by rw [← hdecode c s, h, hdecode]
  obtain rfl := Option.some.inj hc
  exact ⟨rfl, List.append_cancel_left h⟩

/-- **Different rows of characters have different bytes.** -/
theorem encoded_injective : Function.Injective encoded := by
  intro s t h
  have hs : ofUtf8? (encoded s) = ofUtf8? (encoded t) := by rw [h]
  rw [← utf8_ofList, ← utf8_ofList, ofUtf8?_utf8, ofUtf8?_utf8] at hs
  exact String.ofList_injective (Option.some.inj hs)

/-! ### Bytes below 128 -/

/-- The character of a byte below 128. -/
def asciiChar (b : UInt8) : Char := Char.ofNat b.toNat

/-- A code point that is no half of a surrogate pair is that of its character. -/
theorem toNat_ofNat_of_isValidChar {n : Nat} (h : n.isValidChar) : (Char.ofNat n).toNat = n := by
  rw [Char.ofNat, dif_pos h]
  rfl

theorem toNat_asciiChar {b : UInt8} (h : b.toNat < 128) : (asciiChar b).toNat = b.toNat :=
  toNat_ofNat_of_isValidChar (.inl (by omega))

theorem asciiChar_ofNat {c : Char} (h : c.toNat < 128) : asciiChar (UInt8.ofNat c.toNat) = c := by
  rw [asciiChar, UInt8.toNat_ofNat', Nat.mod_eq_of_lt (by omega), Char.ofNat_toNat]

theorem encoded_asciiChar_cons {b : UInt8} (h : b.toNat < 128) (s : List Char) :
    encoded (asciiChar b :: s) = b :: encoded s := by
  rw [encoded_cons_of_lt (by rw [toNat_asciiChar h]; exact h), toNat_asciiChar h,
    UInt8.ofNat_toNat]

theorem encoded_map_asciiChar {s : Bytes} (h : ∀ b ∈ s, b.toNat < 128) :
    encoded (s.map asciiChar) = s := by
  induction s with
  | nil => rfl
  | cons b s ih =>
    rw [List.forall_mem_cons] at h
    rw [List.map_cons, encoded_asciiChar_cons h.1, ih h.2]

end IbanWatch.Text
