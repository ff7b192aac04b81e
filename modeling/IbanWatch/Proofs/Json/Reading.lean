import IbanWatch.Proofs.Json.Groups
import IbanWatch.Proofs.Json.Numerals
import IbanWatch.Proofs.Json.Strings

/-!
# Reading JSON

The reader and the grammar agree.  What the reader takes is written by the rules of the grammar; and
what is written by the rules is taken, if nothing stands behind it that a numeral could go on with.
Both directions go down the levels of lists and objects within each other, and for the items of a
list or an object there is one lemma in each direction, for any way of writing items.

## Main definitions

* `nestedReader` — the reader of the values inside a list or an object.
* `ValueStart` — what a value can begin with.

## Main results

* `scalar_of_readScalar`, `readScalar_of_scalar` — values that are neither lists nor objects.
* `denotes_of_takes`, `takes_of_denotes` — values, in both directions.
* `read_eq_ok_iff` — **a payload is read as a value just when it holds it.**
* `Holds.unique` — a payload holds one value at most.
-/

namespace IbanWatch.Json

open Text

/-! ### White space -/

theorem toNat_of_isSpaceByte {b : UInt8} (h : isSpaceByte b = true) :
    b.toNat < 128 ∧ isSpace (asciiChar b) = true := by
  simp only [isSpaceByte, Bool.or_eq_true, decide_eq_true_eq] at h
  rcases h with ((rfl | rfl) | rfl) | rfl <;> decide

theorem isSpaceByte_of_isSpace {c : Char} (h : isSpace c = true) :
    c.toNat < 128 ∧ isSpaceByte (UInt8.ofNat c.toNat) = true := by
  simp only [isSpace, Bool.or_eq_true, decide_eq_true_eq] at h
  rcases h with ((rfl | rfl) | rfl) | rfl <;> decide

theorem skipSpace_cons_of_pos {b : UInt8} (h : isSpaceByte b = true) (s : Bytes) :
    skipSpace (b :: s) = skipSpace s := List.dropWhile_cons_of_pos h

theorem skipSpace_cons_of_neg {b : UInt8} (h : isSpaceByte b = false) (s : Bytes) :
    skipSpace (b :: s) = b :: s := List.dropWhile_cons_of_neg (by simp [h])

/-- What is skipped is white space. -/
theorem exists_isBlank (s : Bytes) : ∃ blank, IsBlank blank ∧ s = encoded blank ++ skipSpace s := by
  have hall : ∀ b ∈ s.takeWhile isSpaceByte, isSpaceByte b = true :=
    List.all_eq_true.mp List.all_takeWhile
  refine ⟨(s.takeWhile isSpaceByte).map asciiChar, ?_, ?_⟩
  · intro c hc
    obtain ⟨b, hb, rfl⟩ := List.mem_map.mp hc
    exact (toNat_of_isSpaceByte (hall b hb)).2
  · rw [encoded_map_asciiChar fun b hb => (toNat_of_isSpaceByte (hall b hb)).1]
    exact List.takeWhile_append_dropWhile.symm

/-- White space is skipped. -/
theorem skipSpace_of_isBlank {blank : List Char} (h : IsBlank blank) (s : Bytes) :
    skipSpace (encoded blank ++ s) = skipSpace s := by
  induction blank with
  | nil => rfl
  | cons c blank ih =>
    obtain ⟨hlt, hc⟩ := isSpaceByte_of_isSpace (h c List.mem_cons_self)
    rw [encoded_cons_of_lt hlt, List.cons_append, skipSpace_cons_of_pos hc]
    exact ih fun d hd => h d (List.mem_cons_of_mem _ hd)

/-- What is left is not white space. -/
theorem isSpaceByte_of_skipSpace {s t : Bytes} {b : UInt8} (h : skipSpace s = b :: t) :
    isSpaceByte b = false := by
  induction s with
  | nil => cases h
  | cons b' s ih =>
    cases hb : isSpaceByte b' with
    | true => exact ih (by rwa [skipSpace_cons_of_pos hb] at h)
    | false =>
      rw [skipSpace_cons_of_neg hb] at h
      obtain ⟨rfl, -⟩ := List.cons_eq_cons.mp h
      exact hb

theorem skipSpace_skipSpace (s : Bytes) : skipSpace (skipSpace s) = skipSpace s := by
  cases h : skipSpace s with
  | nil => rfl
  | cons b t => exact skipSpace_cons_of_neg (isSpaceByte_of_skipSpace h) t

/-- No numeral goes on with white space. -/
theorem EndsNumeral.of_isBlank {blank : List Char} (h : IsBlank blank) {s : Bytes}
    (hs : EndsNumeral s) : EndsNumeral (encoded blank ++ s) := by
  cases blank with
  | nil => exact hs
  | cons c blank =>
    have hc := h c List.mem_cons_self
    obtain ⟨hlt, -⟩ := isSpaceByte_of_isSpace hc
    rw [encoded_cons_of_lt hlt]
    intro b t hb
    obtain ⟨rfl, -⟩ := List.cons_eq_cons.mp hb
    simp only [isSpace, Bool.or_eq_true, decide_eq_true_eq] at hc
    rcases hc with ((rfl | rfl) | rfl) | rfl <;> decide

/-! ### Neither lists nor objects -/

theorem readWord_eq_ok_iff {word s rest : Bytes} :
    readWord word s = .ok rest ↔ s = word ++ rest := by
  induction word generalizing s with
  | nil =>
    constructor
    · intro h
      cases h
      rfl
    · rintro rfl
      rfl
  | cons w word ih =>
    cases s with
    | nil =>
      constructor
      · intro h
        cases h
      · intro h
        cases h
    | cons b s =>
      rw [readWord]
      by_cases hb : b = w
      · rw [if_pos hb, ih, hb, List.cons_append, List.cons_inj_right]
      · rw [if_neg hb]
        constructor
        · intro h
          cases h
        · intro h
          exact absurd (List.cons_eq_cons.mp h).1 hb

theorem readNamed_eq_ok_iff {word s rest : Bytes} {named v : Value} :
    readNamed word named s = .ok (v, rest) ↔ v = named ∧ s = word ++ rest := by
  rw [← readWord_eq_ok_iff, readNamed]
  cases readWord word s with
  | error fault =>
    constructor
    · intro h
      cases h
    · rintro ⟨-, h⟩
      cases h
  | ok r =>
    constructor
    · intro h
      cases h
      exact ⟨rfl, rfl⟩
    · rintro ⟨rfl, h⟩
      cases h
      rfl

/-- A number is found as a value just when it is read. -/
theorem map_number_eq_ok_iff {x : Except Fault (Number × Bytes)} {v : Value} {rest : Bytes} :
    (x.map fun p => (Value.number p.1, p.2)) = .ok (v, rest)
      ↔ ∃ n, x = .ok (n, rest) ∧ v = .number n := by
  cases x with
  | error fault =>
    constructor
    · intro h
      cases h
    · rintro ⟨n, h, -⟩
      cases h
  | ok found =>
    constructor
    · intro h
      cases h
      exact ⟨found.1, rfl, rfl⟩
    · rintro ⟨n, h, rfl⟩
      cases h
      rfl

/-- **What is taken as neither a list nor an object denotes it.** -/
theorem scalar_of_readScalar {b : UInt8} {s rest : Bytes} {v : Value}
    (h : readScalar b s = .ok (v, rest)) : ∃ cs, Scalar cs v ∧ b :: s = encoded cs ++ rest := by
  have number {negative : Bool} {t : Bytes}
      (h : ((readNumber negative t).map fun p => (Value.number p.1, p.2)) = .ok (v, rest)) :
      ∃ (numeral : Numeral) (n : Number) (cs : List Char), v = .number n
        ∧ numeral.number = .ok n ∧ numeral.negative = negative ∧ numeral.IsUnsigned cs
        ∧ t = encoded cs ++ rest := by
    obtain ⟨n, hn, rfl⟩ := map_number_eq_ok_iff.mp h
    obtain ⟨numeral, hread, hvalue⟩ := readNumber_eq_ok_iff.mp hn
    obtain ⟨hsign, cs, hcs, rfl⟩ := isUnsigned_of_readNumeral hread
    exact ⟨numeral, n, cs, rfl, hvalue, hsign, hcs, rfl⟩
  -- The first byte decides: the three names, the quote, the sign and the digits are asked for in
  -- turn.
  unfold readScalar at h
  split at h
  · next hb =>
    obtain ⟨rfl, rfl⟩ := readNamed_eq_ok_iff.mp h
    exact ⟨_, .null, by rw [hb]; rfl⟩
  split at h
  · next hb =>
    obtain ⟨rfl, rfl⟩ := readNamed_eq_ok_iff.mp h
    exact ⟨_, .yes, by rw [hb]; rfl⟩
  split at h
  · next hb =>
    obtain ⟨rfl, rfl⟩ := readNamed_eq_ok_iff.mp h
    exact ⟨_, .no, by rw [hb]; rfl⟩
  split at h
  · next hb =>
    cases ht : readText s with
    | error fault => rw [ht] at h; cases h
    | ok found =>
      obtain ⟨text, rest'⟩ := found
      rw [ht] at h
      cases h
      obtain ⟨inner, rfl, hinner⟩ := readText_eq_ok_iff.mp ht
      refine ⟨_, .text ⟨inner, rfl, hinner⟩, ?_⟩
      rw [hb, encoded_between (by decide) (by decide)]
      rfl
  split at h
  · next hb =>
    obtain ⟨numeral, n, cs, rfl, hvalue, hsign, hcs, rfl⟩ := number h
    refine ⟨_, .number (.negative hsign hcs) hvalue, ?_⟩
    rw [hb, encoded_cons_of_lt (by decide)]
    rfl
  split at h
  · obtain ⟨numeral, n, cs, rfl, hvalue, hsign, hcs, hs⟩ := number h
    exact ⟨_, .number (.positive hsign hcs) hvalue, hs⟩
  · cases h

/-- What a value can begin with: neither white space nor what closes a list or an object. -/
def ValueStart (b : UInt8) : Prop := isSpaceByte b = false ∧ b ≠ 93 ∧ b ≠ 125

instance (b : UInt8) : Decidable (ValueStart b) := inferInstanceAs (Decidable (_ ∧ _))

/-- A digit begins a number and nothing else. -/
theorem readScalar_of_isDigitByte {b : UInt8} (h : isDigitByte b = true) (s : Bytes) :
    readScalar b s = (readNumber false (b :: s)).map fun (n, rest) => (.number n, rest) := by
  have hne : ∀ {d : UInt8}, isDigitByte d = false → b ≠ d := by
    rintro d hd rfl
    rw [h] at hd
    cases hd
  rw [readScalar, if_neg (hne (by decide)), if_neg (hne (by decide)), if_neg (hne (by decide)),
    if_neg (hne (by decide)), if_neg (hne (by decide)), if_pos h]

theorem IsWhole.isDigits {ds : Digits} (h : IsWhole ds) : IsDigits ds := by
  rcases h with rfl | ⟨hds, -⟩
  · exact ⟨List.cons_ne_nil _ _, by simp⟩
  · exact hds

/-- **A numeral is taken as its number**, if that can be kept. -/
theorem readScalar_of_isWritten {numeral : Numeral} {cs : List Char} (h : numeral.IsWritten cs)
    {rest : Bytes} (hrest : EndsNumeral rest) : ∃ b t, encoded cs ++ rest = b :: t ∧ ValueStart b
      ∧ b ≠ 91 ∧ b ≠ 123 ∧ ∀ {v r}, readScalar b t = .ok (v, r)
        ↔ ∃ n, numeral.number = .ok n ∧ v = .number n ∧ r = rest := by
  -- Behind the sign the numeral is read as itself, so all depends on its number.
  have hnumber : ∀ {s : Bytes} {v : Value} {r : Bytes},
      readNumeral numeral.negative s = .ok (numeral, rest) →
      ((readNumber numeral.negative s).map (fun p => (Value.number p.1, p.2)) = .ok (v, r)
        ↔ ∃ n, numeral.number = .ok n ∧ v = .number n ∧ r = rest) := by
    intro s v r hs
    rw [map_number_eq_ok_iff]
    constructor
    · rintro ⟨n, hn, rfl⟩
      obtain ⟨numeral', hs', hvalue⟩ := readNumber_eq_ok_iff.mp hn
      rw [hs] at hs'
      cases hs'
      exact ⟨n, hvalue, rfl, rfl⟩
    · rintro ⟨n, hvalue, rfl, rfl⟩
      exact ⟨n, readNumber_eq_ok_iff.mpr ⟨numeral, hs, hvalue⟩, rfl⟩
  cases h with
  | @negative s hsign hcs =>
    have hread := readNumeral_eq_ok hcs hrest
    refine ⟨45, encoded s ++ rest, ?_, by decide, by decide, by decide, ?_⟩
    · rw [encoded_cons_of_lt (by decide)]
      rfl
    · intro v r
      rw [← hnumber hread, hsign]
      rfl
  | positive hsign hcs =>
    have hread := readNumeral_eq_ok hcs hrest
    obtain ⟨hwhole, fs, es, -, -, rfl⟩ := hcs
    obtain ⟨d, ds, -, hlt, hs⟩ := hwhole.isDigits.exists_cons (encoded (fs ++ es) ++ rest)
    have hdigit := isDigitByte_digitByte hlt
    have hbyte := toNat_digitByte hlt
    -- None of the bytes that begin something else is a digit.
    have hne : ∀ {b : UInt8}, ¬ (48 ≤ b.toNat ∧ b.toNat ≤ 57) → digitByte d ≠ b := by
      rintro b hb rfl
      omega
    rw [encoded_append, List.append_assoc, hs] at hread
    refine ⟨_, _, by rw [encoded_append, List.append_assoc, hs], ⟨?_, hne (by decide),
      hne (by decide)⟩, hne (by decide), hne (by decide), ?_⟩
    · simp only [isSpaceByte, Bool.or_eq_false_iff, decide_eq_false_iff_not]
      exact ⟨⟨⟨hne (by decide), hne (by decide)⟩, hne (by decide)⟩, hne (by decide)⟩
    · intro v r
      rw [← hnumber hread, readScalar_of_isDigitByte hdigit, hsign]

/-- **What denotes neither a list nor an object is taken as its value.** -/
theorem readScalar_of_scalar {cs : List Char} {v : Value} (h : Scalar cs v) {rest : Bytes}
    (hrest : EndsNumeral rest) : ∃ b t, encoded cs ++ rest = b :: t ∧ ValueStart b
      ∧ b ≠ 91 ∧ b ≠ 123 ∧ readScalar b t = .ok (v, rest) := by
  cases h with
  | null =>
    exact ⟨110, [117, 108, 108] ++ rest, rfl, by decide, by decide, by decide,
      readNamed_eq_ok_iff.mpr ⟨rfl, rfl⟩⟩
  | yes =>
    exact ⟨116, [114, 117, 101] ++ rest, rfl, by decide, by decide, by decide,
      readNamed_eq_ok_iff.mpr ⟨rfl, rfl⟩⟩
  | no =>
    exact ⟨102, [97, 108, 115, 101] ++ rest, rfl, by decide, by decide, by decide,
      readNamed_eq_ok_iff.mpr ⟨rfl, rfl⟩⟩
  | text h =>
    obtain ⟨inner, rfl, hinner⟩ := h
    have hread : readText (encoded inner ++ 34 :: rest) = .ok (_, rest) :=
      readText_eq_ok_iff.mpr ⟨inner, rfl, hinner⟩
    refine ⟨34, encoded inner ++ 34 :: rest, encoded_between (by decide) (by decide) inner rest,
      by decide, by decide, by decide, ?_⟩
    change (readText (encoded inner ++ 34 :: rest)).map _ = _
    rw [hread]
    rfl
  | @number numeral s n h hvalue =>
    obtain ⟨b, t, hs, hstart, hlist, hobject, hread⟩ := readScalar_of_isWritten h hrest
    exact ⟨b, t, hs, hstart, hlist, hobject, hread.mpr ⟨n, hvalue, rfl, rfl⟩⟩

/-! ### Items -/

theorem endsNumeral_comma (s : Bytes) : EndsNumeral (44 :: s) := by
  intro b t hb
  obtain ⟨rfl, -⟩ := List.cons_eq_cons.mp hb
  decide

section Items

variable {α β : Type} (text : β → List Char) (found : β → α) (Good : β → Prop) (group : Group)
  {item : Reader α}

/-- **Items that are taken are written**, each with the white space around it, if each item alone
is.  The items begin behind white space that was skipped. -/
theorem exists_parts_of_takesItems
    (hitem : ∀ {s r : Bytes} {a : α} {before after : List Char}, Takes item s a r →
      IsBlank before → IsBlank after → ∃ p cs, Good p ∧ found p = a ∧ s = encoded cs ++ r
        ∧ text p = before ++ (cs ++ after))
    {s rest : Bytes} {items : List α} (h : TakesItems group item s items rest)
    {before : List Char} (hbefore : IsBlank before) :
    ∃ parts : List β, parts ≠ [] ∧ (∀ p ∈ parts, Good p) ∧ parts.map found = items
      ∧ encoded before ++ s = encoded (commaList (parts.map text)) ++ group.close :: rest := by
  induction h generalizing before with
  | @last s r rest a ha hclose =>
    obtain ⟨after, hafter, hr⟩ := exists_isBlank r
    obtain ⟨p, cs, hp, rfl, rfl, htext⟩ := hitem ha hbefore hafter
    refine ⟨[p], List.cons_ne_nil _ _, by simpa using hp, rfl, ?_⟩
    rw [List.map_singleton, commaList_singleton, htext, hr, hclose]
    simp only [encoded_append, List.append_assoc]
  | @more s r r' s' rest b a as ha hcomma hnext _ _ ih =>
    obtain ⟨after, hafter, hr⟩ := exists_isBlank r
    obtain ⟨before', hbefore', hr'⟩ := exists_isBlank r'
    -- White space before the comma goes to this item, and that behind it to the next one.
    obtain ⟨p, cs, hp, rfl, rfl, htext⟩ := hitem ha hbefore hafter
    obtain ⟨parts, hne, hparts, rfl, hmore⟩ := ih hbefore'
    rw [hnext] at hr'
    rw [← hr'] at hmore
    rw [hcomma, hmore] at hr
    cases parts with
    | nil => exact absurd rfl hne
    | cons p' parts =>
      refine ⟨p :: p' :: parts, List.cons_ne_nil _ _, List.forall_mem_cons.mpr ⟨hp, hparts⟩, rfl,
        ?_⟩
      rw [List.map_cons, List.map_cons, commaList_cons_cons, htext, hr, ← List.map_cons]
      simp only [encoded_append, encoded_cons_of_lt (c := ',') (by decide), List.append_assoc,
        List.cons_append]
      rfl

/-- **What is taken between brackets is written there**: nothing but white space, or items. -/
theorem exists_parts_of_takes_readGroup (hcomma : group.close ≠ 44)
    (hitem : ∀ {s r : Bytes} {a : α} {before after : List Char}, Takes item s a r →
      IsBlank before → IsBlank after → ∃ p cs, Good p ∧ found p = a ∧ s = encoded cs ++ r
        ∧ text p = before ++ (cs ++ after))
    {s rest : Bytes} {items : List α} (h : Takes (readGroup group item) s items rest) :
    (items = [] ∧ ∃ blank, IsBlank blank ∧ s = encoded blank ++ group.close :: rest)
      ∨ ∃ parts : List β, parts ≠ [] ∧ (∀ p ∈ parts, Good p) ∧ parts.map found = items
        ∧ s = encoded (commaList (parts.map text)) ++ group.close :: rest := by
  obtain ⟨b, t, hskip, h⟩ := (takes_readGroup_iff hcomma).mp h
  obtain ⟨blank, hblank, hs⟩ := exists_isBlank s
  rw [hskip] at hs
  rcases h with ⟨rfl, hitems, rfl⟩ | ⟨-, h⟩
  · exact .inl ⟨hitems, blank, hblank, hs⟩
  · obtain ⟨parts, hne, hparts, hfound, heq⟩ :=
      exists_parts_of_takesItems text found Good group hitem h hblank
    exact .inr ⟨parts, hne, hparts, hfound, hs.trans heq⟩

/-- **Items that are written are taken**, if each item alone is, whatever stands behind it that no
numeral can go on with. -/
theorem takesItems_of_parts (hspace : isSpaceByte group.close = false)
    (hends : ∀ s, EndsNumeral (group.close :: s))
    (hitem : ∀ {p : β} {rest : Bytes}, Good p → EndsNumeral rest →
      ∃ b t r, skipSpace (encoded (text p) ++ rest) = b :: t ∧ b ≠ group.close
        ∧ Takes item (b :: t) (found p) r ∧ skipSpace r = skipSpace rest)
    {parts : List β} (hne : parts ≠ []) (hparts : ∀ p ∈ parts, Good p) (rest : Bytes) :
    ∃ b t, skipSpace (encoded (commaList (parts.map text)) ++ group.close :: rest) = b :: t
      ∧ b ≠ group.close ∧ TakesItems group item (b :: t) (parts.map found) rest := by
  induction parts with
  | nil => exact absurd rfl hne
  | cons p parts ih =>
    rw [List.forall_mem_cons] at hparts
    cases parts with
    | nil =>
      obtain ⟨b, t, r, hskip, hb, htakes, hr⟩ := hitem hparts.1 (hends rest)
      rw [skipSpace_cons_of_neg hspace] at hr
      rw [List.map_singleton, commaList_singleton]
      exact ⟨b, t, hskip, hb, .last htakes hr⟩
    | cons p' parts =>
      obtain ⟨b', t', hskip', hb', hmore⟩ := ih (List.cons_ne_nil _ _) hparts.2
      obtain ⟨b, t, r, hskip, hb, htakes, hr⟩ := hitem hparts.1 (endsNumeral_comma _)
      rw [skipSpace_cons_of_neg (by decide)] at hr
      refine ⟨b, t, ?_, hb, .more htakes hr hskip' hb' hmore⟩
      rw [List.map_cons, List.map_cons, commaList_cons_cons, ← List.map_cons, encoded_append,
        encoded_cons_of_lt (by decide), List.append_assoc]
      exact hskip

end Items

/-! ### Members -/

/-- A member that is taken is written, if its value is. -/
theorem exists_memberText_of_takes {value : Reader Value} {P : List Char → Value → Prop}
    (hvalue : ∀ {s r : Bytes} {v : Value}, Takes value s v r → ∃ cs, s = encoded cs ++ r ∧ P cs v)
    (hpad : ∀ {cs after : List Char} {v : Value}, IsBlank after → P cs v → P (cs ++ after) v)
    {s r : Bytes} {a : String × Value} {before after : List Char}
    (h : Takes (readMember value) s a r) (hbefore : IsBlank before) (hafter : IsBlank after) :
    ∃ (m : MemberText) (cs : List Char), (m.IsKeyed ∧ P m.valueText m.value) ∧ m.member = a
      ∧ s = encoded cs ++ r ∧ m.text = before ++ (cs ++ after) := by
  obtain ⟨t, u, r', rfl, htext, hcolon, hv⟩ := takes_readMember_iff.mp h
  obtain ⟨inner, rfl, hinner⟩ := readText_eq_ok_iff.mp htext
  obtain ⟨gap, hgap, hu⟩ := exists_isBlank u
  obtain ⟨cs, rfl, hcs⟩ := hvalue hv
  refine ⟨⟨before, '"' :: (inner ++ ['"']), gap, cs ++ after, a.1, a.2⟩,
    '"' :: (inner ++ ['"']) ++ (gap ++ ':' :: cs), ⟨⟨hbefore, hgap, inner, rfl, hinner⟩,
      hpad hafter hcs⟩, rfl, ?_, ?_⟩
  · rw [hu, hcolon]
    simp only [encoded_append, encoded_cons_of_lt (c := '"') (by decide),
      encoded_cons_of_lt (c := ':') (by decide), List.append_assoc, List.cons_append,
      List.nil_append]
    rfl
  · simp only [MemberText.text, List.append_assoc, List.cons_append]

/-- A member that is written is taken, if its value is. -/
theorem takes_of_memberText {value : Reader Value} {m : MemberText} (hm : m.IsKeyed)
    {rest r : Bytes} (hvalue : Takes value (encoded m.valueText ++ rest) m.value r) :
    ∃ t, skipSpace (encoded m.text ++ rest) = 34 :: t
      ∧ Takes (readMember value) (34 :: t) m.member r := by
  obtain ⟨hbefore, hafter, inner, hkey, hinner⟩ := hm
  refine ⟨encoded inner ++ 34 :: (encoded m.after ++ 58 :: (encoded m.valueText ++ rest)), ?_, ?_⟩
  · rw [MemberText.text, encoded_append, List.append_assoc, skipSpace_of_isBlank hbefore, hkey]
    simp only [encoded_append, encoded_cons_of_lt (c := '"') (by decide),
      encoded_cons_of_lt (c := ':') (by decide), List.append_assoc, List.cons_append,
      List.nil_append]
    exact skipSpace_cons_of_neg (by decide) _
  · refine takes_readMember_iff.mpr ⟨_, _, _, rfl, readText_eq_ok_iff.mpr ⟨inner, rfl, hinner⟩,
      ?_, hvalue⟩
    rw [skipSpace_of_isBlank hafter]
    exact skipSpace_cons_of_neg (by decide) _

/-! ### Values -/

/-- The reader of the values inside a list or an object, if there may be any. -/
def nestedReader : Nat → Option (Reader Value)
  | 0 => none
  | depth + 1 => some (readValue depth)

theorem readValue_eq (depth : Nat) : readValue depth = readLevel (nestedReader depth) := by
  cases depth <;> rfl

theorem takes_readValue_skipSpace {depth : Nat} {s rest : Bytes} {v : Value} :
    Takes (readValue depth) (skipSpace s) v rest ↔ Takes (readValue depth) s v rest := by
  rw [readValue_eq, takes_readLevel_iff, takes_readLevel_iff, skipSpace_skipSpace]

/-- What the reader takes as a value is told by the first byte, if that is not white space. -/
theorem takes_readValue_cons_iff {depth : Nat} {b : UInt8} (hb : isSpaceByte b = false)
    {t r : Bytes} {v : Value} : Takes (readValue depth) (b :: t) v r ↔
      (b ≠ 91 ∧ b ≠ 123 ∧ readScalar b t = .ok (v, r))
        ∨ ∃ d, depth = d + 1
          ∧ ((b = 91 ∧ ∃ items, v = .list items ∧ Takes (readGroup .list (readValue d)) t items r)
            ∨ (b = 123 ∧ ∃ members, v = .object members
              ∧ Takes (readGroup .object (readMember (readValue d))) t members r)) := by
  rw [readValue_eq, takes_readLevel_iff, skipSpace_cons_of_neg hb]
  constructor
  · rintro ⟨b', t', heq, h⟩
    obtain ⟨rfl, rfl⟩ := List.cons_eq_cons.mp heq
    refine h.imp_right fun ⟨value, hvalue, hgroup⟩ => ?_
    -- On the lowest level nothing may be nested.
    cases depth with
    | zero => cases hvalue
    | succ d =>
      obtain rfl := Option.some.inj hvalue
      exact ⟨d, rfl, hgroup⟩
  · intro h
    refine ⟨b, t, rfl, h.imp_right fun ⟨d, hd, hgroup⟩ => ?_⟩
    subst hd
    exact ⟨_, rfl, hgroup⟩

theorem exists_cons_of_takes {α : Type} {reader : Reader α} {s rest : Bytes} {a : α}
    (h : Takes reader s a rest) : ∃ b t, s = b :: t := by
  obtain ⟨shorter, -⟩ := h
  exact List.exists_cons_of_length_pos (Nat.zero_lt_of_lt shorter)

/-- **What is taken as a value denotes it.** -/
theorem denotes_of_takes {depth : Nat} {s rest : Bytes} {v : Value}
    (h : Takes (readValue depth) s v rest) :
    ∃ cs, s = encoded cs ++ rest ∧ Denotes depth cs v := by
  induction depth using Nat.strongRecOn generalizing s rest v with
  | ind depth ih =>
    obtain ⟨blank, hblank, hs⟩ := exists_isBlank s
    -- What begins behind the white space denotes the value.
    suffices hdenotes : ∃ cs, skipSpace s = encoded cs ++ rest ∧ Denotes depth cs v by
      obtain ⟨cs, ht, hcs⟩ := hdenotes
      refine ⟨blank ++ (cs ++ []), ?_, .padded hblank isBlank_nil hcs⟩
      rw [hs, ht]
      simp only [encoded_append, List.append_nil, List.append_assoc]
    rw [← takes_readValue_skipSpace] at h
    obtain ⟨b, t, hskip⟩ := exists_cons_of_takes h
    rw [hskip] at h ⊢
    rcases (takes_readValue_cons_iff (isSpaceByte_of_skipSpace hskip)).mp h with
      ⟨-, -, hscalar⟩ | ⟨d, rfl, ⟨rfl, items, rfl, hitems⟩ | ⟨rfl, members, rfl, hmembers⟩⟩
    · obtain ⟨cs, hcs, ht⟩ := scalar_of_readScalar hscalar
      exact ⟨cs, ht, .scalar hcs⟩
    -- The items are values of the level below, of which the induction tells.
    · rcases exists_parts_of_takes_readGroup Prod.fst Prod.snd (fun p => Denotes d p.1 p.2) .list
          (by decide) (fun htakes hbefore hafter => by
            obtain ⟨cs, hs, hcs⟩ := ih d (Nat.lt_succ_self d) htakes
            exact ⟨(_, _), cs, .padded hbefore hafter hcs, rfl, hs, rfl⟩) hitems with
        ⟨rfl, blank', hblank', rfl⟩ | ⟨parts, hne, hparts, rfl, rfl⟩
      · refine ⟨_, ?_, .emptyList hblank'⟩
        rw [encoded_between (by decide) (by decide)]
        rfl
      · refine ⟨_, ?_, .list hne hparts⟩
        rw [encoded_between (by decide) (by decide)]
        rfl
    · rcases exists_parts_of_takes_readGroup MemberText.text MemberText.member
          (fun m => m.IsKeyed ∧ Denotes d m.valueText m.value) .object (by decide)
          (exists_memberText_of_takes (ih d (Nat.lt_succ_self d)) fun hafter hcs => by
            simpa using Denotes.padded isBlank_nil hafter hcs) hmembers with
        ⟨rfl, blank', hblank', rfl⟩ | ⟨parts, hne, hparts, rfl, rfl⟩
      · refine ⟨_, ?_, .emptyObject hblank'⟩
        rw [encoded_between (by decide) (by decide)]
        rfl
      · refine ⟨_, ?_, .object hne (fun m hm => (hparts m hm).1) fun m hm => (hparts m hm).2⟩
        rw [encoded_between (by decide) (by decide)]
        rfl

theorem endsNumeral_close {group : Group} (h : group = .list ∨ group = .object) (s : Bytes) :
    EndsNumeral (group.close :: s) := by
  intro b t hb
  obtain ⟨rfl, -⟩ := List.cons_eq_cons.mp hb
  rcases h with rfl | rfl <;> decide

/-- A list or an object that is taken between its brackets is taken as a value. -/
theorem takes_readValue_succ {depth : Nat} {t rest : Bytes} :
    (∀ items, Takes (readGroup .list (readValue depth)) t items rest →
        Takes (readValue (depth + 1)) (91 :: t) (.list items) rest)
      ∧ ∀ members, Takes (readGroup .object (readMember (readValue depth))) t members rest →
        Takes (readValue (depth + 1)) (123 :: t) (.object members) rest := by
  constructor
  · intro items h
    exact (takes_readValue_cons_iff (by decide)).mpr (.inr ⟨depth, rfl, .inl ⟨rfl, items, rfl, h⟩⟩)
  · intro members h
    exact (takes_readValue_cons_iff (by decide)).mpr
      (.inr ⟨depth, rfl, .inr ⟨rfl, members, rfl, h⟩⟩)

theorem takes_readGroup_of_isBlank {α : Type} {group : Group} {item : Reader α}
    (h : group = .list ∨ group = .object) {blank : List Char} (hblank : IsBlank blank)
    (rest : Bytes) :
    Takes (readGroup group item) (encoded blank ++ group.close :: rest) [] rest := by
  have hclose : group.close ≠ 44 ∧ isSpaceByte group.close = false := by
    rcases h with rfl | rfl <;> decide
  refine (takes_readGroup_iff hclose.1).mpr ⟨_, _, ?_, .inl ⟨rfl, rfl, rfl⟩⟩
  rw [skipSpace_of_isBlank hblank, skipSpace_cons_of_neg hclose.2]

/-- **What denotes a value is taken as it**, with the white space before it, if nothing stands
behind it that a numeral can go on with.  White space behind it may be left. -/
theorem takes_of_denotes {depth : Nat} {cs : List Char} {v : Value} (h : Denotes depth cs v)
    {rest : Bytes} (hrest : EndsNumeral rest) :
    ∃ b t r, skipSpace (encoded cs ++ rest) = b :: t ∧ ValueStart b
      ∧ Takes (readValue depth) (b :: t) v r ∧ skipSpace r = skipSpace rest := by
  induction h generalizing rest with
  | @scalar depth s v h =>
    obtain ⟨b, t, hs, hstart, hlist, hobject, hread⟩ := readScalar_of_scalar h hrest
    refine ⟨b, t, rest, ?_, hstart, ?_, rfl⟩
    · rw [hs, skipSpace_cons_of_neg hstart.1]
    · exact (takes_readValue_cons_iff hstart.1).mpr (.inl ⟨hlist, hobject, hread⟩)
  | padded hbefore hafter _ ih =>
    -- White space behind the value does not let a numeral go on either.
    obtain ⟨b, t, r, hskip, hstart, htakes, hr⟩ := ih (EndsNumeral.of_isBlank hafter hrest)
    refine ⟨b, t, r, ?_, hstart, htakes, ?_⟩
    · rw [encoded_append, List.append_assoc, skipSpace_of_isBlank hbefore, encoded_append,
        List.append_assoc]
      exact hskip
    · rw [hr, skipSpace_of_isBlank hafter]
  | emptyList hblank =>
    refine ⟨91, _, rest, ?_, by decide,
      takes_readValue_succ.1 _ (takes_readGroup_of_isBlank (.inl rfl) hblank rest), rfl⟩
    rw [encoded_between (by decide) (by decide)]
    exact skipSpace_cons_of_neg (by decide) _
  | emptyObject hblank =>
    refine ⟨123, _, rest, ?_, by decide,
      takes_readValue_succ.2 _ (takes_readGroup_of_isBlank (.inr rfl) hblank rest), rfl⟩
    rw [encoded_between (by decide) (by decide)]
    exact skipSpace_cons_of_neg (by decide) _
  | @list depth parts hne _ ih =>
    obtain ⟨b, t, hskip, hb, hitems⟩ := takesItems_of_parts Prod.fst Prod.snd
      (fun p => p ∈ parts) .list (by decide) (endsNumeral_close (.inl rfl))
      (fun hp hends => by
        obtain ⟨b, t, r, hskip, hstart, htakes, hr⟩ := ih _ hp hends
        exact ⟨b, t, r, hskip, hstart.2.1, htakes, hr⟩) hne (fun p hp => hp) rest
    refine ⟨91, _, rest, ?_, by decide, takes_readValue_succ.1 _
      ((takes_readGroup_iff (by decide)).mpr ⟨b, t, hskip, .inr ⟨hb, hitems⟩⟩), rfl⟩
    rw [encoded_between (by decide) (by decide)]
    exact skipSpace_cons_of_neg (by decide) _
  | @object depth parts hne hkey _ ih =>
    obtain ⟨b, t, hskip, hb, hitems⟩ := takesItems_of_parts MemberText.text MemberText.member
      (fun m => m ∈ parts) .object (by decide) (endsNumeral_close (.inr rfl))
      (fun {m _} hm hends => by
        obtain ⟨b, t, r, hskip, hstart, htakes, hr⟩ := ih m hm hends
        rw [← hskip, takes_readValue_skipSpace] at htakes
        obtain ⟨t', hskip', htakes'⟩ := takes_of_memberText (hkey m hm) htakes
        exact ⟨34, t', r, hskip', by decide, htakes', hr⟩) hne (fun m hm => hm) rest
    refine ⟨123, _, rest, ?_, by decide, takes_readValue_succ.2 _
      ((takes_readGroup_iff (by decide)).mpr ⟨b, t, hskip, .inr ⟨hb, hitems⟩⟩), rfl⟩
    rw [encoded_between (by decide) (by decide)]
    exact skipSpace_cons_of_neg (by decide) _

/-! ### Payloads -/

theorem read_eq_ok_iff_takes {payload : Bytes} {v : Value} :
    read payload = .ok v ↔ ∃ rest, Takes (readValue maxDepth) payload v rest
      ∧ skipSpace rest = [] := by
  rw [read]
  cases h : readValue maxDepth payload with
  | error fault =>
    refine ⟨nofun, ?_⟩
    rintro ⟨rest, ⟨shorter, hread⟩, -⟩
    rw [h] at hread
    cases hread
  | ok found =>
    obtain ⟨v', rest', shorter'⟩ := found
    constructor
    · intro hread
      cases hskip : skipSpace rest' with
      | cons b t => simp [hskip] at hread
      | nil =>
        simp only [hskip] at hread
        cases hread
        exact ⟨rest', ⟨shorter', h⟩, hskip⟩
    · rintro ⟨rest, ⟨shorter, hread⟩, hskip⟩
      rw [h] at hread
      cases hread
      simp only [hskip]

/-- **A payload is read as a value just when it holds it**: when it is UTF-8, and its text denotes
the value by the rules of the grammar. -/
theorem read_eq_ok_iff {payload : Bytes} {v : Value} : read payload = .ok v ↔ Holds payload v := by
  rw [read_eq_ok_iff_takes]
  constructor
  · rintro ⟨rest, htakes, hskip⟩
    obtain ⟨cs, rfl, hcs⟩ := denotes_of_takes htakes
    -- Nothing but white space may be left, and it belongs to the text of the value.
    obtain ⟨blank, hblank, hrest⟩ := exists_isBlank rest
    rw [hskip, List.append_nil] at hrest
    refine ⟨String.ofList (cs ++ blank), ?_, ?_⟩
    · rw [utf8_ofList, encoded_append, hrest]
    · rw [String.toList_ofList]
      exact .padded isBlank_nil hblank hcs
  · rintro ⟨s, rfl, hs⟩
    have hends : EndsNumeral [] := nofun
    obtain ⟨b, t, r, hskip, -, htakes, hr⟩ := takes_of_denotes hs hends
    rw [List.append_nil] at hskip
    rw [← hskip, takes_readValue_skipSpace] at htakes
    exact ⟨r, htakes, hr⟩

/-- **A payload holds one value at most.** -/
theorem Holds.unique {payload : Bytes} {v w : Value} (hv : Holds payload v)
    (hw : Holds payload w) : v = w := by
  rw [← read_eq_ok_iff] at hv hw
  exact Except.ok.inj (hv.symm.trans hw)

end IbanWatch.Json
