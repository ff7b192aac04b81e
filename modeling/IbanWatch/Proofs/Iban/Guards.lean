import IbanWatch.Proofs.Iban.Chunks
import IbanWatch.Proofs.Iban.NormalForm
import IbanWatch.Proofs.Iban.Weights

/-!
# Nothing wraps around, and no character is cut

The number of a candidate is spelled byte by byte, in words of 8 and 64 bits.  Here the same check
is run with a guard before each step that could go wrong: a byte from which more is taken than it
holds, a sum that a byte or a word has no room for, a cut in the middle of a character, a remainder
that is too wide for the word it is reported in.  The guarded check gives an answer for every
candidate, and it is the answer of the check.

The guards rely on what was found on characters before: when the number is spelled, the rules on
country, length and layout hold, so nothing is left of the candidate but 24 letters and digits of
one byte each.  A character of several bytes comes so far only as white space, which is not in the
normal form.

## Main definitions

* `Guarded.check` — the check with its guards, without an answer where one of them fails.
* `IsSpelled` — the check comes as far as the number.
* `SpellsSafely` — everything about what is spelled.

## Main results

* `isSpelled_iff` — the number is spelled for what is laid out as an identifier.
* `width_eq`, `letters_bounds` — how many digits are spelled.
* `Guarded.check_eq` — **no guard ever fails**.
* `spellsSafely` — **what is spelled are letters and digits of one byte each**.
* `spelled_around_wide_blank` — white space of two bytes does not keep a number from being spelled.
-/

namespace IbanWatch.Iban

open Text

/-! ### The check with its guards -/

namespace Guarded

/-- The difference of two bytes, unless it is below zero. -/
def sub (a b : UInt8) : Option UInt8 := if b.toNat ≤ a.toNat then some (a - b) else none

/-- The sum of two bytes, unless a byte has no room for it. -/
def add (a b : UInt8) : Option UInt8 := if a.toNat + b.toNat < 2 ^ 8 then some (a + b) else none

/-- Whether a text may be cut there: at its end, or where a character begins. -/
def isBoundary (bytes : Bytes) (place : Nat) : Bool :=
  match bytes[place]? with
  | some b => !isContinuation b
  | none => place == bytes.length

/-- The two parts of a text, unless a character would be cut. -/
def cut (bytes : Bytes) (place : Nat) : Option (Bytes × Bytes) :=
  if isBoundary bytes place then some (bytes.take place, bytes.drop place) else none

/-- The digits that spell one letter or digit. -/
def spellByte (byte : UInt8) : Option (List UInt8) :=
  if 48 ≤ byte && byte ≤ 57 then do return [← sub byte 48]
  else do
    let value ← add (← sub byte 65) 10
    return [value / 10, value % 10]

/-- The digits of the number that the identifier stands for. -/
def spell (bytes : Bytes) : Option (List UInt8) := do
  let (head, rest) ← cut bytes 4
  let digits ← (rest ++ head).mapM spellByte
  return digits.flatten

/-- One more digit, unless the word has no room for it. -/
def next (acc : UInt64) (d : UInt8) : Option UInt64 :=
  if acc.toNat * 10 + d.toNat < 2 ^ 64 then some (acc * 10 + d.toUInt64) else none

/-- The remainder modulo 97 of the number that the digits spell. -/
def remainder97 (digits : List UInt8) : Option UInt64 :=
  (chunksOf chunkSize (by decide) digits).foldlM
    (fun remainder chunk => return (← chunk.foldlM next remainder) % 97) 0

/-- The remainder in a word of 32 bits, unless it is too wide. -/
def narrow (remainder : UInt64) : Option UInt32 :=
  if remainder.toNat < 2 ^ 32 then some remainder.toUInt32 else none

/-- The first defect of a candidate, if it has one. -/
def check (candidate : String) : Option (Except Defect Unit) :=
  let normalized := normalize candidate
  let characters := normalized.toList
  if characters.isEmpty then some (.error .empty)
  else if !country.isPrefixOf characters then some (.error .wrongCountry)
  else if characters.length ≠ length then some (.error (.wrongLength characters.length))
  else
    match firstMisplaced? characters with
    | some (position, found) => some (.error (.malformed position found))
    | none => do
      let remainder ← narrow (← remainder97 (← spell (utf8 normalized)))
      return if remainder = 1 then .ok () else .error (.checksum remainder.toNat)

end Guarded

/-! ### Where the number is spelled -/

/-- The check comes as far as the number: its answer is what the number decides. -/
def IsSpelled (s : String) : Prop := check s = .ok () ∨ ∃ r, check s = .error (.checksum r)

theorem Breaks.isLaidOut {n : List Char} {r : Nat} (h : Breaks n (.checksum r)) :
    ∃ check bank account, IsLaidOut n check bank account := by
  cases h with
  | checksum hlaid _ => exact ⟨_, _, _, hlaid⟩

/-- **The number is spelled for what is laid out** as an identifier. -/
theorem isSpelled_iff (s : String) :
    IsSpelled s ↔ ∃ check bank account, IsLaidOut (normalize s).toList check bank account := by
  constructor
  · rintro (hok | ⟨r, herror⟩)
    · exact ((check_eq_ok_iff s).mp hok).1
    · exact ((check_eq_error_iff s _).mp herror).isLaidOut
  · rintro ⟨check, bank, account, hlaid⟩
    rw [IsSpelled, check_of_isLaidOut hlaid, numberAnswer]
    split
    · exact .inl rfl
    · exact .inr ⟨_, rfl⟩

/-! ### How many digits are spelled -/

/-- A row of letters and digits spells a digit for each and one more for each letter. -/
theorem width_eq {cs : List Char} (h : ∀ c ∈ cs, IsSymbol c) :
    width cs = cs.length + cs.countP isCapital := by
  induction cs with
  | nil => rfl
  | cons c cs ih =>
    rw [List.forall_mem_cons] at h
    have hcons : width (c :: cs) = width [c] + width cs := width_append [c] cs
    rw [hcons, ih h.2, List.length_cons, List.countP_cons]
    rcases h.1 with hdigit | hcapital
    · rw [width_of_isDigit hdigit, isCapital_of_isDigit hdigit, if_neg Bool.false_ne_true]
      omega
    · rw [width_of_isCapital hcapital, hcapital, if_pos rfl]
      omega

/-- Country and bank have six letters, and the account has no more than sixteen. -/
theorem IsLaidOut.letters_bounds {n check bank account : List Char}
    (h : IsLaidOut n check bank account) : 6 ≤ n.countP isCapital ∧ n.countP isCapital ≤ 22 := by
  have hcountry : country.countP isCapital = 2 := by decide
  have hcheck : check.countP isCapital = 0 := by
    rw [List.countP_eq_zero]
    exact fun c hc => not_isCapital_of_isDigit (h.check.2 c hc)
  have hbank : bank.countP isCapital = 4 := by
    rw [List.countP_eq_length.mpr h.bank.2, h.bank.1]
  -- Only in the account is there a choice between letters and digits.
  have haccount : account.countP isCapital ≤ 16 := by
    rw [← h.account.1]
    exact List.countP_le_length
  rw [h.parts, List.countP_append, List.countP_append, List.countP_append]
  omega

theorem IsLaidOut.length_spell {n check bank account : List Char}
    (h : IsLaidOut n check bank account) :
    (spell (utf8 (String.ofList n))).length = 24 + n.countP isCapital := by
  have hlength := congrArg List.length (spell_utf8 h.isSymbol).1
  rw [List.length_map, List.length_map] at hlength
  have hwidth : width (n.drop 4 ++ n.take 4) = width n := by
    rw [width_append, Nat.add_comm, ← width_append, List.take_append_drop]
  rw [hlength]
  exact hwidth.trans (by rw [width_eq h.isSymbol, h.length, Iban.length])

/-! ### No guard fails -/

namespace Guarded

/-- What is checked once for every letter and digit: no guard fails on its byte, and the byte begins
a character. -/
theorem spellByte_eq {c : Char} (h : IsSymbol c) :
    spellByte (UInt8.ofNat c.toNat) = some (Iban.spellByte (UInt8.ofNat c.toNat))
      ∧ isContinuation (UInt8.ofNat c.toNat) = false := by
  -- There are 36 of them.
  have hall : (symbols.all fun c =>
      decide (spellByte (UInt8.ofNat c.toNat) = some (Iban.spellByte (UInt8.ofNat c.toNat)))
        && !isContinuation (UInt8.ofNat c.toNat)) = true := by
    decide +kernel
  have hc := List.all_eq_true.mp hall c (mem_symbols h)
  simp only [Bool.and_eq_true, decide_eq_true_eq, Bool.not_eq_true'] at hc
  exact hc

theorem mapM_eq_some {α β : Type} {f : α → Option β} {g : α → β} {l : List α}
    (h : ∀ a ∈ l, f a = some (g a)) : l.mapM f = some (l.map g) := by
  induction l with
  | nil => rfl
  | cons a l ih =>
    rw [List.forall_mem_cons] at h
    rw [List.mapM_cons, h.1, ih h.2]
    rfl

/-- No guard fails where the number is spelled. -/
theorem spell_eq {n : List Char} (h : ∀ c ∈ n, IsSymbol c) (hlength : 4 < n.length) :
    spell (utf8 (String.ofList n)) = some (Iban.spell (utf8 (String.ofList n))) := by
  rw [utf8_of_isSymbol h]
  have hbyte : ∀ b ∈ n.map fun c => UInt8.ofNat c.toNat,
      spellByte b = some (Iban.spellByte b) ∧ isContinuation b = false := by
    intro b hb
    obtain ⟨c, hc, rfl⟩ := List.mem_map.mp hb
    exact spellByte_eq (h c hc)
  have hlength : 4 < (n.map fun c => UInt8.ofNat c.toNat).length := by rwa [List.length_map]
  generalize (n.map fun c => UInt8.ofNat c.toNat) = bytes at hbyte hlength ⊢
  -- The fifth byte begins a character, so the text may be cut in front of it.
  have hcut : cut bytes 4 = some (bytes.take 4, bytes.drop 4) := by
    have hbegins := (hbyte _ (List.getElem_mem hlength)).2
    have hboundary : isBoundary bytes 4 = true := by
      simp only [isBoundary, List.getElem?_eq_getElem hlength, hbegins, Bool.not_false]
    rw [cut, if_pos hboundary]
  have hrest : (bytes.drop 4 ++ bytes.take 4).mapM spellByte
      = some ((bytes.drop 4 ++ bytes.take 4).map Iban.spellByte) := by
    refine mapM_eq_some fun b hb => (hbyte b ?_).1
    rcases List.mem_append.mp hb with hb | hb
    · exact List.mem_of_mem_drop hb
    · exact List.mem_of_mem_take hb
  rw [spell, hcut, Iban.spell, List.flatMap]
  show ((bytes.drop 4 ++ bytes.take 4).mapM spellByte).bind (fun digits => some digits.flatten) = _
  rw [hrest]
  rfl

/-- No guard fails within a chunk. -/
theorem foldlM_next {size left : Nat} (hsize : 97 * 10 ^ size ≤ 2 ^ 64) (hleft : left ≤ size)
    {ds : List UInt8} (hds : ∀ d ∈ ds, d.toNat ≤ 9) (hlength : ds.length ≤ left) {acc : UInt64}
    (h : Within size left acc) : ds.foldlM next acc = some (wordFrom acc ds) := by
  induction ds generalizing left acc with
  | nil => rfl
  | cons d ds ih =>
    rw [List.forall_mem_cons] at hds
    rw [List.length_cons] at hlength
    obtain ⟨left, rfl⟩ : ∃ k, left = k + 1 := ⟨left - 1, by omega⟩
    obtain ⟨hword, hwithin⟩ := toNat_step hsize hleft hds.1 h
    -- The word is the natural number, so this has not gone beyond a word.
    have hroom : acc.toNat * 10 + d.toNat < 2 ^ 64 := by
      rw [← hword]
      exact UInt64.toNat_lt _
    rw [List.foldlM_cons, next, if_pos hroom]
    exact ih (by omega) hds.2 (by omega) hwithin

/-- No guard fails from chunk to chunk. -/
theorem foldlM_chunks {size : Nat} (hsize : 97 * 10 ^ size ≤ 2 ^ 64) {chunks : List (List UInt8)}
    (h : ∀ chunk ∈ chunks, chunk.length ≤ size ∧ ∀ d ∈ chunk, d.toNat ≤ 9) {remainder : UInt64}
    (hremainder : Within size size remainder) :
    chunks.foldlM (fun remainder chunk => return (← chunk.foldlM next remainder) % 97) remainder
      = some (foldChunks remainder chunks) := by
  induction chunks generalizing remainder with
  | nil => rfl
  | cons chunk chunks ih =>
    rw [List.forall_mem_cons] at h
    have hchunk := foldlM_next hsize (Nat.le_refl _) h.1.2 h.1.1 hremainder
    rw [List.foldlM_cons, hchunk]
    exact ih h.2 (within_mod size _)

theorem remainder97_eq {ds : List UInt8} (hds : ∀ d ∈ ds, d.toNat ≤ 9) :
    remainder97 ds = some (Iban.remainder97 ds) := by
  have hpos : 0 < chunkSize := by decide
  have hchunks : ∀ chunk ∈ chunksOf chunkSize hpos ds,
      chunk.length ≤ chunkSize ∧ ∀ d ∈ chunk, d.toNat ≤ 9 := by
    intro chunk hchunk
    exact ⟨length_le_of_mem_chunksOf hpos ds chunk hchunk,
      fun d hd => hds d (mem_of_mem_chunksOf hchunk hd)⟩
  rw [Iban.remainder97, remainderInChunks_eq hpos]
  exact foldlM_chunks (by decide) hchunks (within_zero chunkSize)

/-- A remainder fits a word of 32 bits, and is the same there. -/
theorem narrow_spec {remainder : UInt64} (h : remainder.toNat < 97) :
    narrow remainder = some remainder.toUInt32 ∧ (remainder.toUInt32 = 1 ↔ remainder = 1)
      ∧ remainder.toUInt32.toNat = remainder.toNat := by
  have hvalue : remainder.toUInt32.toNat = remainder.toNat := by
    rw [UInt64.toNat_toUInt32]
    omega
  refine ⟨if_pos (by omega), ?_, hvalue⟩
  rw [← UInt32.toNat_inj, ← UInt64.toNat_inj, hvalue]
  rfl

/-- **No guard ever fails**: every candidate has an answer, which is that of the check. -/
theorem check_eq (s : String) : check s = some (Iban.check s) := by
  have hutf8 : utf8 (normalize s) = utf8 (String.ofList (normalize s).toList) := by
    rw [String.ofList_toList]
  simp only [check, Iban.check, hutf8]
  generalize (normalize s).toList = n
  by_cases hempty : n.isEmpty = true
  · rw [if_pos hempty, if_pos hempty]
  rw [if_neg hempty, if_neg hempty]
  by_cases hcountry : (!country.isPrefixOf n) = true
  · rw [if_pos hcountry, if_pos hcountry]
  rw [if_neg hcountry, if_neg hcountry]
  by_cases hlength : n.length ≠ length
  · rw [if_pos hlength, if_pos hlength]
  rw [if_neg hlength, if_neg hlength]
  cases hfirst : firstMisplaced? n with
  | some found => rfl
  | none =>
    obtain ⟨_, _, _, hlaid⟩ := exists_isLaidOut_iff.mpr ⟨by simpa using hcountry,
      not_not.mp hlength, firstMisplaced?_eq_none_iff.mp hfirst⟩
    have hspell := spell_eq hlaid.isSymbol (by rw [hlaid.length]; decide)
    have hdigits := (spell_utf8 hlaid.isSymbol).2
    have hremainder := toNat_remainder97 hdigits
    have hlt : (Iban.remainder97 (Iban.spell (utf8 (String.ofList n)))).toNat < 97 := by
      rw [hremainder]
      exact Nat.mod_lt _ (by decide)
    simp only [hspell, remainder97_eq hdigits, Option.bind_eq_bind, Option.bind_some]
    generalize Iban.remainder97 (Iban.spell (utf8 (String.ofList n))) = remainder at hlt ⊢
    -- The remainder is below 97, so it is the same in the narrower word.
    obtain ⟨hnarrow, hone, hvalue⟩ := narrow_spec hlt
    simp only [hnarrow, Option.bind_some, hone, hvalue]
    rfl

end Guarded

/-! ### Characters of several bytes -/

theorem le_toNat_of_utf8Size {c : Char} (h : 1 < c.utf8Size) : 128 ≤ c.toNat := by
  by_contra hlt
  have hone : c.utf8Size = 1 := by
    rw [← String.length_utf8EncodeChar, utf8EncodeChar_of_lt (by omega)]
    rfl
  omega

/-- When the number is spelled, a character of several bytes can only be white space. -/
theorem isBlank_of_utf8Size {s : String} (h : IsSpelled s) {c : Char} (hc : c ∈ s.toList)
    (hwide : 1 < c.utf8Size) : isBlank c = true := by
  have hle := le_toNat_of_utf8Size hwide
  obtain ⟨_, _, _, hlaid⟩ := (isSpelled_iff s).mp h
  by_contra hblank
  rw [Bool.not_eq_true] at hblank
  have hupper : c.toUpper = c := by
    rw [← Char.toNat_inj, toNat_toUpper, if_neg (by omega)]
  -- What is no white space is kept, and then it would have to be a letter or a digit.
  have hmem : c ∈ (normalize s).toList := by
    rw [toList_normalize]
    exact List.mem_map.mpr ⟨c, List.mem_filter.mpr ⟨hc, by simp [hblank]⟩, hupper⟩
  have hsymbol := hlaid.isSymbol c hmem
  rw [IsSymbol, isDigit_iff, isCapital_iff] at hsymbol
  omega

/-! ### Everything together -/

/-- Letters and digits are one byte each, so a text of them may be cut anywhere. -/
theorem utf8_take_drop {n : List Char} (h : ∀ c ∈ n, IsSymbol c) (k : Nat) :
    (utf8 (String.ofList n)).take k = utf8 (String.ofList (n.take k))
      ∧ (utf8 (String.ofList n)).drop k = utf8 (String.ofList (n.drop k)) := by
  have htake : ∀ c ∈ n.take k, IsSymbol c := fun c hc => h c (List.mem_of_mem_take hc)
  have hdrop : ∀ c ∈ n.drop k, IsSymbol c := fun c hc => h c (List.mem_of_mem_drop hc)
  rw [utf8_of_isSymbol h, utf8_of_isSymbol htake, utf8_of_isSymbol hdrop, List.map_take,
    List.map_drop]
  exact ⟨rfl, rfl⟩

/-- The byte is a digit or a letter, and its value is found without wrapping around. -/
def IsSafeByte (b : UInt8) : Prop :=
  48 ≤ b.toNat ∧ b.toNat ≤ 57 ∧ (b - 48).toNat = b.toNat - 48
    ∨ 65 ≤ b.toNat ∧ b.toNat ≤ 90 ∧ (b - 65 + 10).toNat = b.toNat - 65 + 10

theorem isSafeByte_of_isSymbol {c : Char} (h : IsSymbol c) : IsSafeByte (UInt8.ofNat c.toNat) := by
  rw [IsSymbol, isDigit_iff, isCapital_iff] at h
  have hbyte : (UInt8.ofNat c.toNat).toNat = c.toNat := by
    rw [UInt8.toNat_ofNat', Nat.mod_eq_of_lt (by omega)]
  -- The character is below 128, so nothing of it is lost in the byte.
  generalize UInt8.ofNat c.toNat = b at hbyte
  rw [← hbyte] at h
  rcases h with ⟨hlow, hhigh⟩ | ⟨hlow, hhigh⟩
  · refine .inl ⟨hlow, hhigh, ?_⟩
    rw [UInt8.toNat_sub_of_le _ _ hlow]
    rfl
  · refine .inr ⟨hlow, hhigh, ?_⟩
    have hsub : (b - 65).toNat = b.toNat - 65 := UInt8.toNat_sub_of_le _ _ hlow
    rw [UInt8.toNat_add, hsub, show (10 : UInt8).toNat = 10 from rfl]
    omega

/-- Everything about what is spelled when a candidate is checked. -/
structure SpellsSafely (s : String) : Prop where
  /-- With a guard before each step that could go wrong, the check has the same answer. -/
  guarded : Guarded.check s = some (check s)
  /-- When the number is spelled, the normal form is cut behind its fourth byte, where one part of
  the text ends and the other begins. -/
  cut : IsSpelled s → ∃ head rest, normalize s = head ++ rest ∧ (utf8 head).length = 4
    ∧ (utf8 (normalize s)).take 4 = utf8 head ∧ (utf8 (normalize s)).drop 4 = utf8 rest
  /-- Its bytes are digits and letters. -/
  bytes : IsSpelled s → ∀ b ∈ utf8 (normalize s), IsSafeByte b
  /-- What is spelled are digits, 24 of them and one more for each letter. -/
  digits : IsSpelled s → (∀ d ∈ spell (utf8 (normalize s)), d.toNat ≤ 9)
    ∧ (spell (utf8 (normalize s))).length = 24 + (normalize s).toList.countP isCapital
    ∧ 30 ≤ (spell (utf8 (normalize s))).length ∧ (spell (utf8 (normalize s))).length ≤ 46
  /-- A candidate of any length with a character of several bytes other than white space is turned
  away before. -/
  turnedAway : (∃ c ∈ s.toList, 1 < c.utf8Size ∧ isBlank c = false) → ¬ IsSpelled s

/-- **What is spelled are letters and digits of one byte each**, and no step goes wrong. -/
theorem spellsSafely (s : String) : SpellsSafely s := by
  have hnormal : normalize s = String.ofList (normalize s).toList := String.ofList_toList.symm
  refine ⟨Guarded.check_eq s, ?_, ?_, ?_, ?_⟩
  · intro hspelled
    obtain ⟨_, _, _, hlaid⟩ := (isSpelled_iff s).mp hspelled
    obtain ⟨htake, hdrop⟩ := utf8_take_drop hlaid.isSymbol 4
    have hfour : (utf8 (normalize s)).length = 24 := by
      rw [hnormal, utf8_of_isSymbol hlaid.isSymbol, List.length_map, hlaid.length]
      rfl
    rw [← hnormal] at htake hdrop
    refine ⟨_, _, ?_, ?_, htake, hdrop⟩
    · rw [← String.ofList_append, List.take_append_drop, ← hnormal]
    · rw [← htake, List.length_take, hfour]
      rfl
  -- Each byte is a character of the normal form.
  · intro hspelled b hb
    obtain ⟨_, _, _, hlaid⟩ := (isSpelled_iff s).mp hspelled
    rw [hnormal, utf8_of_isSymbol hlaid.isSymbol] at hb
    obtain ⟨c, hc, rfl⟩ := List.mem_map.mp hb
    exact isSafeByte_of_isSymbol (hlaid.isSymbol c hc)
  · intro hspelled
    obtain ⟨_, _, _, hlaid⟩ := (isSpelled_iff s).mp hspelled
    have hletters := hlaid.letters_bounds
    have hlength := hlaid.length_spell
    rw [← hnormal] at hlength
    refine ⟨?_, hlength, by omega, by omega⟩
    rw [hnormal]
    exact (spell_utf8 hlaid.isSymbol).2
  · rintro ⟨c, hc, hwide, hblank⟩ hspelled
    rw [isBlank_of_utf8Size hspelled hc hwide] at hblank
    cases hblank

/-- White space of two bytes does not keep a number from being spelled: it is taken out before. -/
theorem spelled_around_wide_blank : '\u00a0' ∈ "RO49\u00a0AAAA1B31007593840000".toList
    ∧ 1 < '\u00a0'.utf8Size ∧ IsSpelled "RO49\u00a0AAAA1B31007593840000" :=
  ⟨by decide, by decide, .inl (by decide +kernel)⟩

end IbanWatch.Iban
