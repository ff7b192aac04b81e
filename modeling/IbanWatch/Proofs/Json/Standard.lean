import IbanWatch.Proofs.Json.Reading
import Mathlib.Data.List.Forall2

/-!
# JSON without bounds

The grammar of RFC 8259 as it stands, where the reader sets bounds: here lists and objects lie
within each other as deep as they like, any numeral is a number, and four hexadecimal digits escape
any code point, be it half of a surrogate pair.  A text of this grammar can be taken apart in one
way only.  So when the reader takes an object, it took each member of it, and one member beyond the
bounds takes the whole object with it.

## Main definitions

* `BodyText`, `StringText` — the ways to write a string, whatever it spells.
* `MemberSource` — a member of an object as it is written, and nothing about what it denotes.
* `WellFormed` — the texts that are JSON.
* `MemberSource.IsReadable` — a member within the bounds of the reader.
* `TakenAs` — what a reader can take of a text, whatever stands behind it.
* `IsObject` — a payload is an object with these members.

## Main results

* `wellFormed_of_denotes` — what denotes a value is JSON.
* `behindQuote_of_bodyText` — the closing quote of a string is found without its meaning.
* `takenAs_of_wellFormed` — **of what is JSON the reader takes only what denotes a value.**
* `exists_isObject` — what holds an object is written as one.
* `IsObject.holds_iff` — **an object is read just when each of its members denotes something.**
-/

namespace IbanWatch.Json

open Text

/-! ### Strings -/

/-- The ways to write what stands between quotes. -/
inductive BodyText : List Char → Prop
  /-- Nothing. -/
  | nil : BodyText []
  /-- A character by itself, unless it is a control character, the quote or the backslash. -/
  | plain {c : Char} {s : List Char} (hc : ' ' ≤ c) (hquote : c ≠ '"') (hslash : c ≠ '\\')
      (h : BodyText s) : BodyText (c :: s)
  /-- A backslash and a letter. -/
  | short {letter c : Char} {s : List Char} (hletter : (letter, c) ∈ shortEscapes)
      (h : BodyText s) : BodyText ('\\' :: letter :: s)
  /-- A code point by four digits, whichever they are. -/
  | code {digits s : List Char} {n : Nat} (hdigits : IsHexWord digits n) (h : BodyText s) :
      BodyText ('\\' :: 'u' :: (digits ++ s))

/-- The text is a string between quotes. -/
def StringText (s : List Char) : Prop := ∃ body, s = '"' :: (body ++ ['"']) ∧ BodyText body

/-- What spells a character can stand between quotes. -/
theorem BodyText.of_spells {w : List Char} {c : Char} (h : Spells w c) {s : List Char}
    (hs : BodyText s) : BodyText (w ++ s) := by
  cases h with
  | plain hc hquote hslash => exact .plain hc hquote hslash hs
  | short hletter => exact .short hletter hs
  | code hdigits => exact .code hdigits hs
  | pair hfirst _ hsecond _ _ =>
    rw [List.cons_append, List.cons_append, List.append_assoc]
    exact .code hfirst (.code hsecond hs)

theorem BodyText.of_spellsAll {s cs : List Char} (h : SpellsAll s cs) : BodyText s := by
  induction h with
  | nil => exact .nil
  | cons hc _ ih => exact .of_spells hc ih

/-- What quotes a text is a string. -/
theorem StringText.of_quotes {s : List Char} {text : String} (h : Quotes s text) :
    StringText s := by
  obtain ⟨inner, rfl, hinner⟩ := h
  exact ⟨inner, rfl, .of_spellsAll hinner⟩

/-- Characters that can stand by themselves spell themselves. -/
theorem spellsAll_of_plain {s : List Char}
    (h : ∀ c ∈ s, ' ' ≤ c ∧ c ≠ '"' ∧ c ≠ '\\') : SpellsAll s s := by
  induction s with
  | nil => exact .nil
  | cons c s ih =>
    rw [List.forall_mem_cons] at h
    exact .cons (.plain h.1.1 h.1.2.1 h.1.2.2) (ih h.2)

/-- A text quotes one string at most. -/
theorem Quotes.unique {s : List Char} {text text' : String} (h : Quotes s text)
    (h' : Quotes s text') : text = text' := by
  obtain ⟨inner, rfl, hinner⟩ := h
  obtain ⟨inner', heq, hinner'⟩ := h'
  obtain rfl := List.append_cancel_right (List.cons_eq_cons.mp heq).2
  have hread := readText_eq_ok_iff.mpr ⟨inner, (rfl : _ = encoded inner ++ 34 :: []), hinner⟩
  rw [readText_eq_ok_iff.mpr ⟨inner, rfl, hinner'⟩] at hread
  cases hread
  rfl

/-! ### Where a string ends -/

/-- What stands behind the first quote that no backslash escapes. -/
def behindQuote : Bytes → Bytes
  | [] => []
  | [_] => []
  | b :: c :: s =>
    if b = 34 then c :: s else if b = 92 then behindQuote s else behindQuote (c :: s)

theorem behindQuote_quote (s : Bytes) : behindQuote (34 :: s) = s := by
  cases s with
  | nil => rfl
  | cons c s => rw [behindQuote, if_pos rfl]

theorem behindQuote_escape (b : UInt8) (s : Bytes) :
    behindQuote (92 :: b :: s) = behindQuote s := by
  rw [behindQuote, if_neg (by decide), if_pos rfl]

theorem behindQuote_bytes {t : Bytes} (h : ∀ b ∈ t, b ≠ 34 ∧ b ≠ 92) {s : Bytes} (hs : s ≠ []) :
    behindQuote (t ++ s) = behindQuote s := by
  induction t with
  | nil => rfl
  | cons b t ih =>
    rw [List.forall_mem_cons] at h
    obtain ⟨c, u, hu⟩ := List.exists_cons_of_ne_nil (List.append_ne_nil_of_right_ne_nil t hs)
    rw [← ih h.2, List.cons_append, hu, behindQuote, if_neg h.1.1, if_neg h.1.2]

/-- Hexadecimal digits are neither the quote nor the backslash. -/
theorem IsHexWord.plain {digits : List Char} {n : Nat} (h : IsHexWord digits n) :
    ∀ b ∈ encoded digits, b ≠ 34 ∧ b ≠ 92 := by
  intro b hb
  obtain ⟨c, hc, hb⟩ := List.mem_flatMap.mp hb
  have hdigit := h.all c hc
  have hspace : ' ' ≤ c := by
    simp only [isHexDigit, Bool.or_eq_true, Bool.and_eq_true, decide_eq_true_eq] at hdigit
    rcases hdigit with (hd | hd) | hd
    all_goals exact Char.le_trans (by decide) hd.1
  have hne : ∀ d : Char, isHexDigit d = false → c ≠ d := by
    rintro d hd rfl
    rw [hdigit] at hd
    cases hd
  exact (isPlainByte_of_mem hspace (hne _ (by decide)) (hne _ (by decide)) b hb).2

/-- **The closing quote of a string** is the first that no backslash escapes. -/
theorem behindQuote_of_bodyText {body : List Char} (h : BodyText body) (rest : Bytes) :
    behindQuote (encoded body ++ 34 :: rest) = rest := by
  induction h with
  | nil => exact behindQuote_quote rest
  | plain hc hquote hslash _ ih =>
    have hplain := fun b hb => (isPlainByte_of_mem hc hquote hslash b hb).2
    rw [encoded_cons, List.append_assoc, behindQuote_bytes hplain (by simp), ih]
  | short hletter _ ih =>
    obtain ⟨hlt, -⟩ := escapedByte?_of_mem hletter
    rw [encoded_cons_of_lt (by decide), encoded_cons_of_lt hlt]
    exact (behindQuote_escape _ _).trans ih
  | @code digits s _ hdigits _ ih =>
    rw [encoded_cons_of_lt (by decide), encoded_cons_of_lt (by decide), encoded_append]
    refine (behindQuote_escape _ (encoded digits ++ encoded s ++ 34 :: rest)).trans ?_
    rw [List.append_assoc, behindQuote_bytes hdigits.plain (by simp), ih]

/-- When a string is taken, what is between its quotes spells it. -/
theorem spellsAll_of_readText {body : List Char} (hbody : BodyText body) {rest r : Bytes}
    {text : String} (h : readText (encoded body ++ 34 :: rest) = .ok (text, r)) :
    SpellsAll body text.toList ∧ r = rest := by
  obtain ⟨inner, heq, hinner⟩ := readText_eq_ok_iff.mp h
  have hrest := behindQuote_of_bodyText hbody rest
  rw [heq, behindQuote_of_bodyText (.of_spellsAll hinner)] at hrest
  subst hrest
  rw [encoded_injective (List.append_cancel_right heq)]
  exact ⟨hinner, rfl⟩

/-! ### Values -/

/-- A member of an object as it is written. -/
structure MemberSource where
  /-- White space before the key. -/
  before : List Char
  /-- The key between its quotes. -/
  keyText : List Char
  /-- White space behind the key. -/
  after : List Char
  /-- The text of the value. -/
  valueText : List Char

/-- The member: a key, a colon and a value. -/
def MemberSource.text (m : MemberSource) : List Char :=
  m.before ++ (m.keyText ++ (m.after ++ ':' :: m.valueText))

/-- The key of the member is a string. -/
structure MemberSource.IsKeyed (m : MemberSource) : Prop where
  before : IsBlank m.before
  after : IsBlank m.after
  key : StringText m.keyText

/-- The members between braces. -/
def objectText (parts : List MemberSource) : List Char :=
  '{' :: (commaList (parts.map MemberSource.text) ++ ['}'])

/-- The texts that are JSON. -/
inductive WellFormed : List Char → Prop
  | null : WellFormed ['n', 'u', 'l', 'l']
  | yes : WellFormed ['t', 'r', 'u', 'e']
  | no : WellFormed ['f', 'a', 'l', 's', 'e']
  /-- A number of any size. -/
  | number {numeral : Numeral} {s : List Char} (h : numeral.IsWritten s) : WellFormed s
  | text {s : List Char} (h : StringText s) : WellFormed s
  /-- White space on either side changes nothing. -/
  | padded {before s after : List Char} (hbefore : IsBlank before) (hafter : IsBlank after)
      (h : WellFormed s) : WellFormed (before ++ (s ++ after))
  | emptyList {s : List Char} (h : IsBlank s) : WellFormed ('[' :: (s ++ [']']))
  | list {parts : List (List Char)} (hne : parts ≠ []) (h : ∀ p ∈ parts, WellFormed p) :
      WellFormed ('[' :: (commaList parts ++ [']']))
  | emptyObject {s : List Char} (h : IsBlank s) : WellFormed ('{' :: (s ++ ['}']))
  | object {parts : List MemberSource} (hne : parts ≠ []) (hkey : ∀ p ∈ parts, p.IsKeyed)
      (h : ∀ p ∈ parts, WellFormed p.valueText) : WellFormed (objectText parts)

/-- The member is well written. -/
structure MemberSource.IsWritten (m : MemberSource) : Prop extends m.IsKeyed where
  value : WellFormed m.valueText

/-- The member denotes this, within the bounds of the reader. -/
structure MemberSource.Denotes (depth : Nat) (m : MemberSource) (a : String × Value) : Prop where
  before : IsBlank m.before
  after : IsBlank m.after
  key : Quotes m.keyText a.1
  value : Json.Denotes depth m.valueText a.2

/-- The member is within the bounds of the reader, as a member of the object of a payload. -/
def MemberSource.IsReadable (m : MemberSource) : Prop := ∃ a, m.Denotes (maxDepth - 1) a

/-- The value is the object of what the members denote, one level below. -/
def ObjectOf (depth : Nat) (parts : List MemberSource) (v : Value) : Prop :=
  ∃ d members, depth = d + 1 ∧ v = .object members
    ∧ List.Forall₂ (MemberSource.Denotes d) parts members

/-! ### The bounds -/

/-- The member as it is written. -/
def MemberText.source (m : MemberText) : MemberSource :=
  ⟨m.before, m.keyText, m.after, m.valueText⟩

theorem map_text_source (members : List MemberText) :
    (members.map MemberText.source).map MemberSource.text = members.map MemberText.text := by
  rw [List.map_map]
  rfl

theorem MemberText.IsKeyed.source {m : MemberText} (h : m.IsKeyed) : m.source.IsKeyed :=
  ⟨h.before, h.after, .of_quotes h.key⟩

/-- **What denotes a value is JSON.** -/
theorem wellFormed_of_denotes {depth : Nat} {s : List Char} {v : Value} (h : Denotes depth s v) :
    WellFormed s := by
  induction h with
  | scalar h =>
    cases h with
    | null => exact .null
    | yes => exact .yes
    | no => exact .no
    | number h _ => exact .number h
    | text h => exact .text (.of_quotes h)
  | padded hbefore hafter _ ih => exact .padded hbefore hafter ih
  | emptyList h => exact .emptyList h
  | emptyObject h => exact .emptyObject h
  | list hne _ ih =>
    refine .list (by simpa using hne) fun p hp => ?_
    obtain ⟨q, hq, rfl⟩ := List.mem_map.mp hp
    exact ih q hq
  | object hne hkey _ ih =>
    rw [← map_text_source]
    refine .object (by simpa using hne) (fun p hp => ?_) fun p hp => ?_
    all_goals obtain ⟨q, hq, rfl⟩ := List.mem_map.mp hp
    · exact (hkey q hq).source
    · exact ih q hq

theorem denotes_list_of_forall₂ {depth : Nat} {parts : List (List Char)} {items : List Value}
    (hne : parts ≠ []) (h : List.Forall₂ (Denotes depth) parts items) :
    Denotes (depth + 1) ('[' :: (commaList parts ++ [']'])) (.list items) := by
  obtain ⟨hlen, hzip⟩ := List.forall₂_iff_zip.mp h
  have hfst : (parts.zip items).map Prod.fst = parts := List.map_fst_zip (Nat.le_of_eq hlen)
  have hsnd : (parts.zip items).map Prod.snd = items := List.map_snd_zip (Nat.le_of_eq hlen.symm)
  have hne' : parts.zip items ≠ [] := by
    intro hnil
    rw [hnil] at hfst
    exact hne hfst.symm
  have hlist := Denotes.list hne' fun p hp => hzip (a := p.1) (b := p.2) hp
  rwa [hfst, hsnd] at hlist

theorem exists_memberTexts {depth : Nat} {parts : List MemberSource}
    {members : List (String × Value)}
    (h : List.Forall₂ (MemberSource.Denotes depth) parts members) :
    ∃ texts : List MemberText, texts.map MemberText.source = parts
      ∧ texts.map MemberText.member = members
      ∧ ∀ t ∈ texts, t.IsKeyed ∧ Denotes depth t.valueText t.value := by
  induction h with
  | nil => exact ⟨[], rfl, rfl, List.forall_mem_nil _⟩
  | @cons p a parts members hp _ ih =>
    obtain ⟨texts, rfl, rfl, htexts⟩ := ih
    refine ⟨⟨p.before, p.keyText, p.after, p.valueText, a.1, a.2⟩ :: texts, rfl, rfl, ?_⟩
    exact List.forall_mem_cons.mpr ⟨⟨⟨hp.before, hp.after, hp.key⟩, hp.value⟩, htexts⟩

theorem denotes_object_of_forall₂ {depth : Nat} {parts : List MemberSource}
    {members : List (String × Value)} (hne : parts ≠ [])
    (h : List.Forall₂ (MemberSource.Denotes depth) parts members) :
    Denotes (depth + 1) (objectText parts) (.object members) := by
  obtain ⟨texts, rfl, rfl, htexts⟩ := exists_memberTexts h
  rw [objectText, map_text_source]
  exact .object (by simpa using hne) (fun t ht => (htexts t ht).1) fun t ht => (htexts t ht).2

/-! ### What can only be taken as a whole -/

/-- Whatever the reader takes at the head of a text that begins with `s`, it takes the whole of `s`,
white space apart, and what it finds is as told. -/
def TakenAs {α : Type} (reader : Reader α) (s : List Char) (Good : α → Prop) : Prop :=
  ∀ rest, EndsNumeral rest → ∃ b t, skipSpace (encoded s ++ rest) = b :: t ∧ ValueStart b
    ∧ ∀ a r, Takes reader (b :: t) a r → Good a ∧ skipSpace r = skipSpace rest

/-- What is known less of is still known. -/
theorem TakenAs.imp {α : Type} {reader : Reader α} {s : List Char} {P Q : α → Prop}
    (h : TakenAs reader s P) (himp : ∀ a, P a → Q a) : TakenAs reader s Q := by
  intro rest hrest
  obtain ⟨b, t, hskip, hstart, htaken⟩ := h rest hrest
  exact ⟨b, t, hskip, hstart, fun a r ha => (htaken a r ha).imp_left (himp a)⟩

section Groups

variable {α β : Type} {text : β → List Char} {Good : β → α → Prop} {group : Group}
  {item : Reader α}

/-- What is known of the closing bracket of a list or an object. -/
theorem Group.close_spec (hgroup : group = .list ∨ group = .object) :
    group.close ≠ 44 ∧ isSpaceByte group.close = false ∧ ¬ ValueStart group.close := by
  rcases hgroup with rfl | rfl <;> decide

/-- Between brackets with nothing but white space nothing is taken. -/
theorem takes_readGroup_blank (hgroup : group = .list ∨ group = .object) {blank : List Char}
    (hblank : IsBlank blank) {rest r : Bytes} {items : List α}
    (h : Takes (readGroup group item) (encoded blank ++ group.close :: rest) items r) :
    items = [] ∧ r = rest := by
  obtain ⟨hcomma, hspace, -⟩ := Group.close_spec hgroup
  obtain ⟨b, t, hskip, h⟩ := (takes_readGroup_iff hcomma).mp h
  rw [skipSpace_of_isBlank hblank, skipSpace_cons_of_neg hspace] at hskip
  obtain ⟨rfl, rfl⟩ := List.cons_eq_cons.mp hskip
  rcases h with ⟨-, rfl, rfl⟩ | ⟨hne, -⟩
  · exact ⟨rfl, rfl⟩
  · exact absurd rfl hne

/-- **Items that are taken are those that are written**, if that holds of each alone. -/
theorem forall₂_of_takesItems (hgroup : group = .list ∨ group = .object) {parts : List β}
    (hitem : ∀ p ∈ parts, TakenAs item (text p) (Good p)) (hne : parts ≠ []) (rest : Bytes) :
    ∃ b t, skipSpace (encoded (commaList (parts.map text)) ++ group.close :: rest) = b :: t
      ∧ ValueStart b ∧ ∀ items r, TakesItems group item (b :: t) items r →
        List.Forall₂ Good parts items ∧ r = rest := by
  obtain ⟨hcomma, hspace, -⟩ := Group.close_spec hgroup
  induction parts with
  | nil => exact absurd rfl hne
  | cons p parts ih =>
    rw [List.forall_mem_cons] at hitem
    cases parts with
    | nil =>
      obtain ⟨b, t, hskip, hstart, htaken⟩ := hitem.1 _ (endsNumeral_close hgroup rest)
      rw [List.map_singleton, commaList_singleton]
      refine ⟨b, t, hskip, hstart, fun items r h => ?_⟩
      rw [skipSpace_cons_of_neg hspace] at htaken
      cases h with
      | last ha hclose =>
        obtain ⟨hgood, hr⟩ := htaken _ _ ha
        rw [hclose] at hr
        exact ⟨.cons hgood .nil, (List.cons_eq_cons.mp hr).2⟩
      | more ha hmore =>
        -- Behind the only item no comma stands.
        obtain ⟨-, hr⟩ := htaken _ _ ha
        rw [hmore] at hr
        exact absurd (List.cons_eq_cons.mp hr).1.symm hcomma
    | cons p' parts =>
      obtain ⟨b', t', hskip', hstart', hmore'⟩ := ih hitem.2 (List.cons_ne_nil _ _)
      obtain ⟨b, t, hskip, hstart, htaken⟩ := hitem.1 _ (endsNumeral_comma
        (encoded (commaList ((p' :: parts).map text)) ++ group.close :: rest))
      refine ⟨b, t, ?_, hstart, fun items r h => ?_⟩
      · rw [List.map_cons, List.map_cons, commaList_cons_cons, ← List.map_cons, encoded_append,
          encoded_cons_of_lt (by decide), List.append_assoc, List.cons_append]
        exact hskip
      rw [skipSpace_cons_of_neg (by decide)] at htaken
      cases h with
      | last ha hclose =>
        -- Behind an item that is not the last no bracket stands.
        obtain ⟨-, hr⟩ := htaken _ _ ha
        rw [hclose] at hr
        exact absurd (List.cons_eq_cons.mp hr).1 hcomma
      | more ha hmore hnext _ has =>
        obtain ⟨hgood, hr⟩ := htaken _ _ ha
        rw [hmore] at hr
        obtain ⟨-, rfl⟩ := List.cons_eq_cons.mp hr
        rw [hskip'] at hnext
        obtain ⟨rfl, rfl⟩ := List.cons_eq_cons.mp hnext
        obtain ⟨hgoods, hrest⟩ := hmore' _ _ has
        exact ⟨.cons hgood hgoods, hrest⟩

/-- The same for the brackets with what is between them. -/
theorem forall₂_of_takes_readGroup (hgroup : group = .list ∨ group = .object) {parts : List β}
    (hitem : ∀ p ∈ parts, TakenAs item (text p) (Good p)) (hne : parts ≠ []) {rest r : Bytes}
    {items : List α} (h : Takes (readGroup group item)
      (encoded (commaList (parts.map text)) ++ group.close :: rest) items r) :
    List.Forall₂ Good parts items ∧ r = rest := by
  obtain ⟨hcomma, -, hclose⟩ := Group.close_spec hgroup
  obtain ⟨b, t, hskip, hstart, htaken⟩ := forall₂_of_takesItems hgroup hitem hne rest
  obtain ⟨b', t', hskip', h⟩ := (takes_readGroup_iff hcomma).mp h
  rw [hskip] at hskip'
  obtain ⟨rfl, rfl⟩ := List.cons_eq_cons.mp hskip'
  rcases h with ⟨rfl, -, -⟩ | ⟨-, h⟩
  · exact absurd hstart hclose
  · exact htaken _ _ h

end Groups

/-! ### Well-formed texts -/

/-- What begins as neither a list nor an object is taken as the scalar that it is. -/
theorem takenAs_of_readScalar {depth : Nat} {s : List Char}
    (h : ∀ rest, EndsNumeral rest → ∃ b t, encoded s ++ rest = b :: t ∧ ValueStart b
      ∧ b ≠ 91 ∧ b ≠ 123 ∧ ∀ v r, readScalar b t = .ok (v, r) → Scalar s v ∧ r = rest) :
    TakenAs (readValue depth) s (Denotes depth s) := by
  intro rest hrest
  obtain ⟨b, t, hs, hstart, hlist, hobject, hread⟩ := h rest hrest
  refine ⟨b, t, by rw [hs, skipSpace_cons_of_neg hstart.1], hstart, fun v r htakes => ?_⟩
  rcases (takes_readValue_cons_iff hstart.1).mp htakes with
    ⟨-, -, hscalar⟩ | ⟨d, -, ⟨rfl, -⟩ | ⟨rfl, -⟩⟩
  · obtain ⟨hs', rfl⟩ := hread v r hscalar
    exact ⟨.scalar hs', rfl⟩
  · exact absurd rfl hlist
  · exact absurd rfl hobject

/-- One of the three words is taken as what it stands for. -/
theorem takenAs_word {depth : Nat} {s : List Char} {b : UInt8} {word : Bytes} {named : Value}
    (hnamed : Scalar s named) (hs : encoded s = b :: word) (hstart : ValueStart b) (hlist : b ≠ 91)
    (hobject : b ≠ 123) (hread : ∀ t, readScalar b t = readNamed word named t) :
    TakenAs (readValue depth) s (Denotes depth s) := by
  refine takenAs_of_readScalar fun rest _ =>
    ⟨b, word ++ rest, by rw [hs, List.cons_append], hstart, hlist, hobject, fun v r h => ?_⟩
  rw [hread, readNamed_eq_ok_iff] at h
  obtain ⟨rfl, heq⟩ := h
  exact ⟨hnamed, (List.append_cancel_left heq).symm⟩

/-- A string is taken as what it spells. -/
theorem takenAs_string {depth : Nat} {s : List Char} (h : StringText s) :
    TakenAs (readValue depth) s (Denotes depth s) := by
  obtain ⟨body, rfl, hbody⟩ := h
  refine takenAs_of_readScalar fun rest _ => ⟨34, _,
    encoded_between (by decide) (by decide) body rest, by decide, by decide, by decide, ?_⟩
  intro v r hv
  change (readText (encoded body ++ 34 :: rest)).map _ = _ at hv
  cases ht : readText (encoded body ++ 34 :: rest) with
  | error fault =>
    rw [ht] at hv
    cases hv
  | ok found =>
    rw [ht] at hv
    cases hv
    obtain ⟨hspells, hr⟩ := spellsAll_of_readText hbody ht
    exact ⟨.text ⟨body, rfl, hspells⟩, hr⟩

/-- A numeral is taken as its number. -/
theorem takenAs_numeral {depth : Nat} {s : List Char} {numeral : Numeral}
    (h : numeral.IsWritten s) : TakenAs (readValue depth) s (Denotes depth s) := by
  refine takenAs_of_readScalar fun rest hrest => ?_
  obtain ⟨b, t, hs, hstart, hlist, hobject, hread⟩ := readScalar_of_isWritten h hrest
  refine ⟨b, t, hs, hstart, hlist, hobject, fun v r hv => ?_⟩
  obtain ⟨n, hn, rfl, rfl⟩ := hread.mp hv
  exact ⟨.number h hn, rfl⟩

/-- With white space around it a text is taken as without. -/
theorem TakenAs.padded {depth : Nat} {before s after : List Char} (hbefore : IsBlank before)
    (hafter : IsBlank after) (h : TakenAs (readValue depth) s (Denotes depth s)) :
    TakenAs (readValue depth) (before ++ (s ++ after))
      (Denotes depth (before ++ (s ++ after))) := by
  intro rest hrest
  obtain ⟨b, t, hskip, hstart, htaken⟩ := h _ (.of_isBlank hafter hrest)
  refine ⟨b, t, ?_, hstart, fun v r htakes => ?_⟩
  · rw [encoded_append, List.append_assoc, skipSpace_of_isBlank hbefore, encoded_append,
      List.append_assoc]
    exact hskip
  · obtain ⟨hdenotes, hr⟩ := htaken v r htakes
    rw [skipSpace_of_isBlank hafter] at hr
    exact ⟨.padded hbefore hafter hdenotes, hr⟩

/-- A text between brackets is taken as a list. -/
theorem takenAs_of_readGroup_list {depth : Nat} {s : List Char} {Good : Value → Prop}
    (h : ∀ d rest items r, depth = d + 1 →
      Takes (readGroup .list (readValue d)) (encoded s ++ 93 :: rest) items r →
      Good (.list items) ∧ r = rest) :
    TakenAs (readValue depth) ('[' :: (s ++ [']'])) Good := by
  intro rest _
  have hs : encoded ('[' :: (s ++ [']'])) ++ rest = 91 :: (encoded s ++ 93 :: rest) :=
    encoded_between (by decide) (by decide) s rest
  refine ⟨91, _, by rw [hs, skipSpace_cons_of_neg (by decide)], by decide, fun v r htakes => ?_⟩
  rcases (takes_readValue_cons_iff (by decide)).mp htakes with
    ⟨hlist, -⟩ | ⟨d, hd, ⟨-, items, rfl, hitems⟩ | ⟨hb, -⟩⟩
  · exact absurd rfl hlist
  · obtain ⟨hgood, rfl⟩ := h d rest items r hd hitems
    exact ⟨hgood, rfl⟩
  · cases hb

/-- A text between braces is taken as an object. -/
theorem takenAs_of_readGroup_object {depth : Nat} {s : List Char} {Good : Value → Prop}
    (h : ∀ d rest members r, depth = d + 1 →
      Takes (readGroup .object (readMember (readValue d))) (encoded s ++ 125 :: rest) members r →
      Good (.object members) ∧ r = rest) :
    TakenAs (readValue depth) ('{' :: (s ++ ['}'])) Good := by
  intro rest _
  have hs : encoded ('{' :: (s ++ ['}'])) ++ rest = 123 :: (encoded s ++ 125 :: rest) :=
    encoded_between (by decide) (by decide) s rest
  refine ⟨123, _, by rw [hs, skipSpace_cons_of_neg (by decide)], by decide, fun v r htakes => ?_⟩
  rcases (takes_readValue_cons_iff (by decide)).mp htakes with
    ⟨-, hobject, -⟩ | ⟨d, hd, ⟨hb, -⟩ | ⟨-, members, rfl, hmembers⟩⟩
  · exact absurd rfl hobject
  · cases hb
  · obtain ⟨hgood, rfl⟩ := h d rest members r hd hmembers
    exact ⟨hgood, rfl⟩

theorem takenAs_emptyObject {depth : Nat} {s : List Char} (h : IsBlank s) :
    TakenAs (readValue depth) ('{' :: (s ++ ['}'])) (ObjectOf depth []) := by
  refine takenAs_of_readGroup_object fun d rest members r hd htakes => ?_
  obtain ⟨rfl, rfl⟩ := takes_readGroup_blank (.inr rfl) h htakes
  exact ⟨⟨d, [], hd, rfl, .nil⟩, rfl⟩

/-- Members between braces are taken as the object of what they denote, if each alone is. -/
theorem takenAs_objectText {depth : Nat} {parts : List MemberSource} (hne : parts ≠ [])
    (h : ∀ p ∈ parts, ∀ d, TakenAs (readMember (readValue d)) p.text (p.Denotes d)) :
    TakenAs (readValue depth) (objectText parts) (ObjectOf depth parts) := by
  refine takenAs_of_readGroup_object fun d rest members r hd htakes => ?_
  obtain ⟨hdenotes, rfl⟩ := forall₂_of_takes_readGroup (.inr rfl) (fun p hp => h p hp d) hne htakes
  exact ⟨⟨d, members, hd, rfl, hdenotes⟩, rfl⟩

/-- A member is taken as what it denotes, if its value is. -/
theorem takenAs_member {depth : Nat} {m : MemberSource} (hkey : m.IsKeyed)
    (hvalue : TakenAs (readValue depth) m.valueText (Denotes depth m.valueText)) :
    TakenAs (readMember (readValue depth)) m.text (m.Denotes depth) := by
  intro rest hrest
  obtain ⟨hbefore, hafter, body, hquoted, hbody⟩ := hkey
  obtain ⟨b, t, hskip, -, htaken⟩ := hvalue rest hrest
  have hs : skipSpace (encoded m.text ++ rest)
      = 34 :: (encoded body ++ 34 :: (encoded m.after ++ 58 :: (encoded m.valueText ++ rest))) := by
    have hquotes := encoded_between (c := '"') (d := '"') (by decide) (by decide) body
      (encoded (m.after ++ ':' :: m.valueText) ++ rest)
    rw [MemberSource.text, encoded_append, List.append_assoc, skipSpace_of_isBlank hbefore,
      encoded_append, List.append_assoc, hquoted, hquotes, encoded_append, List.append_assoc,
      encoded_cons_of_lt (by decide)]
    exact skipSpace_cons_of_neg (by decide) _
  refine ⟨34, _, hs, by decide, fun a r htakes => ?_⟩
  obtain ⟨u, u', r', hu, hkey, hcolon, htakes⟩ := takes_readMember_iff.mp htakes
  obtain ⟨-, rfl⟩ := List.cons_eq_cons.mp hu
  -- The key ends where its quotes end, so the colon and the value are those of this member.
  obtain ⟨hspells, rfl⟩ := spellsAll_of_readText hbody hkey
  rw [skipSpace_of_isBlank hafter, skipSpace_cons_of_neg (by decide)] at hcolon
  obtain ⟨-, rfl⟩ := List.cons_eq_cons.mp hcolon
  rw [← takes_readValue_skipSpace, hskip] at htakes
  obtain ⟨hdenotes, hr⟩ := htaken _ _ htakes
  exact ⟨⟨hbefore, hafter, ⟨body, hquoted, hspells⟩, hdenotes⟩, hr⟩

/-- **Of what is JSON the reader takes only what denotes a value.** -/
theorem takenAs_of_wellFormed {s : List Char} (h : WellFormed s) (depth : Nat) :
    TakenAs (readValue depth) s (Denotes depth s) := by
  induction h generalizing depth with
  | null => exact takenAs_word .null rfl (by decide) (by decide) (by decide) fun _ => rfl
  | yes => exact takenAs_word .yes rfl (by decide) (by decide) (by decide) fun _ => rfl
  | no => exact takenAs_word .no rfl (by decide) (by decide) (by decide) fun _ => rfl
  | number h => exact takenAs_numeral h
  | text h => exact takenAs_string h
  | padded hbefore hafter _ ih => exact (ih depth).padded hbefore hafter
  | emptyList hblank =>
    refine takenAs_of_readGroup_list fun d rest items r hd htakes => ?_
    obtain ⟨rfl, rfl⟩ := takes_readGroup_blank (.inl rfl) hblank htakes
    exact ⟨hd ▸ .emptyList hblank, rfl⟩
  | emptyObject hblank =>
    -- An object of no members denotes nothing else.
    refine (takenAs_emptyObject hblank).imp fun v hv => ?_
    obtain ⟨d, members, rfl, rfl, hmembers⟩ := hv
    cases hmembers
    exact .emptyObject hblank
  | @list parts hne _ ih =>
    refine takenAs_of_readGroup_list fun d rest items r hd htakes => ?_
    rw [← List.map_id parts] at htakes
    obtain ⟨hdenotes, rfl⟩ := forall₂_of_takes_readGroup (.inl rfl) (fun p hp => ih p hp d) hne
      htakes
    exact ⟨hd ▸ denotes_list_of_forall₂ hne hdenotes, rfl⟩
  | object hne hkey _ ih =>
    have hpart := fun p hp d => takenAs_member (hkey p hp) (ih p hp d)
    refine (takenAs_objectText hne hpart).imp fun v hv => ?_
    obtain ⟨d, members, rfl, rfl, hmembers⟩ := hv
    exact denotes_object_of_forall₂ hne hmembers

/-! ### Objects -/

/-- The payload is an object whose members are written like this, with white space around it. -/
inductive IsObject : List MemberSource → Bytes → Prop
  /-- There are no members. -/
  | empty {front s back : List Char} (hfront : IsBlank front) (h : IsBlank s)
      (hback : IsBlank back) : IsObject [] (encoded (front ++ ('{' :: (s ++ ['}']) ++ back)))
  /-- There are some, parted by commas. -/
  | members {front back : List Char} {parts : List MemberSource} (hfront : IsBlank front)
      (hne : parts ≠ []) (h : ∀ p ∈ parts, p.IsWritten) (hback : IsBlank back) :
      IsObject parts (encoded (front ++ (objectText parts ++ back)))

/-- The members of an object are well written. -/
theorem IsObject.isWritten {parts : List MemberSource} {payload : Bytes}
    (h : IsObject parts payload) : ∀ p ∈ parts, p.IsWritten := by
  cases h with
  | empty => exact nofun
  | members _ _ hparts _ => exact hparts

theorem isObject_of_isWritten {parts : List MemberSource} (h : ∀ p ∈ parts, p.IsWritten) :
    IsObject parts (encoded (objectText parts)) := by
  rw [← List.nil_append (objectText parts), ← List.append_nil (objectText parts)]
  by_cases hne : parts = []
  · subst hne
    exact .empty isBlank_nil isBlank_nil isBlank_nil
  · exact .members isBlank_nil hne h isBlank_nil

/-- White space around an object changes nothing. -/
theorem IsObject.padded {parts : List MemberSource} {s before after : List Char}
    (h : IsObject parts (encoded s)) (hbefore : IsBlank before) (hafter : IsBlank after) :
    IsObject parts (encoded (before ++ (s ++ after))) := by
  have happend {s t : List Char} (hs : IsBlank s) (ht : IsBlank t) : IsBlank (s ++ t) := by
    intro c hc
    exact (List.mem_append.mp hc).elim (hs c) (ht c)
  generalize hpayload : encoded s = payload at h
  cases h with
  | @empty front inner back hfront hinner hback =>
    obtain rfl := encoded_injective hpayload
    have hempty := IsObject.empty (happend hbefore hfront) hinner (happend hback hafter)
    simpa only [List.append_assoc] using hempty
  | @members front back parts hfront hne hparts hback =>
    obtain rfl := encoded_injective hpayload
    have hmembers := IsObject.members (happend hbefore hfront) hne hparts (happend hback hafter)
    simpa only [List.append_assoc] using hmembers

/-- **What holds an object is written as one.** -/
theorem exists_isObject {payload : Bytes} {members : List (String × Value)}
    (h : Holds payload (.object members)) : ∃ parts, IsObject parts payload := by
  obtain ⟨s, rfl, hs⟩ := h
  rw [utf8_eq_encoded]
  generalize s.toList = cs, maxDepth = depth at hs
  generalize hv : Value.object members = v at hs
  -- Only the text of an object denotes one, with white space around it or without.
  induction hs with
  | scalar h =>
    subst hv
    cases h
  | padded hbefore hafter _ ih =>
    obtain ⟨parts, hparts⟩ := ih hv
    exact ⟨parts, hparts.padded hbefore hafter⟩
  | emptyList => cases hv
  | list => cases hv
  | emptyObject hblank =>
    have hempty := IsObject.empty isBlank_nil hblank isBlank_nil
    exact ⟨[], by simpa using hempty⟩
  | @object depth texts hne hkey hvalue _ =>
    have hwritten : ∀ p ∈ texts.map MemberText.source, p.IsWritten := by
      intro p hp
      obtain ⟨t, ht, rfl⟩ := List.mem_map.mp hp
      exact ⟨(hkey t ht).source, wellFormed_of_denotes (hvalue t ht)⟩
    have hparts := IsObject.members isBlank_nil (by simpa using hne) hwritten isBlank_nil
    rw [objectText, map_text_source] at hparts
    exact ⟨_, by simpa using hparts⟩

/-- A payload holds what its text is taken as, white space around it apart. -/
theorem of_holds {front s back : List Char} (hfront : IsBlank front) (hback : IsBlank back)
    {Good : Value → Prop} (hs : TakenAs (readValue maxDepth) s Good) {v : Value}
    (h : Holds (encoded (front ++ (s ++ back))) v) : Good v := by
  obtain ⟨rest, htakes, -⟩ := read_eq_ok_iff_takes.mp (read_eq_ok_iff.mpr h)
  have hends : EndsNumeral (encoded back) := by
    rw [← List.append_nil (encoded back)]
    exact .of_isBlank hback nofun
  obtain ⟨b, t, hskip, -, htaken⟩ := hs _ hends
  rw [encoded_append, ← takes_readValue_skipSpace, skipSpace_of_isBlank hfront, encoded_append,
    hskip] at htakes
  exact (htaken v rest htakes).1

/-- A text with white space around it holds what it denotes. -/
theorem holds_of_denotes {front s back : List Char} (hfront : IsBlank front)
    (hback : IsBlank back) {v : Value} (h : Denotes maxDepth s v) :
    Holds (encoded (front ++ (s ++ back))) v := by
  refine ⟨String.ofList (front ++ (s ++ back)), (utf8_ofList _).symm, ?_⟩
  rw [String.toList_ofList]
  exact .padded hfront hback h

/-- **An object is read just when each of its members denotes something**, and then it is the object
of that. -/
theorem IsObject.holds_iff {parts : List MemberSource} {payload : Bytes}
    (h : IsObject parts payload) {v : Value} : Holds payload v ↔ ObjectOf maxDepth parts v := by
  cases h with
  | empty hfront hblank hback =>
    refine ⟨of_holds hfront hback (takenAs_emptyObject hblank), fun hv => ?_⟩
    obtain ⟨d, members, hd, rfl, hmembers⟩ := hv
    cases hmembers
    exact holds_of_denotes hfront hback (hd ▸ .emptyObject hblank)
  | members hfront hne hparts hback =>
    -- What is written is taken as what it denotes, but it need not denote anything.
    have hpart := fun p hp d =>
      takenAs_member (hparts p hp).toIsKeyed (takenAs_of_wellFormed (hparts p hp).value d)
    refine ⟨of_holds hfront hback (takenAs_objectText hne hpart), fun hv => ?_⟩
    obtain ⟨d, members, hd, rfl, hmembers⟩ := hv
    exact holds_of_denotes hfront hback (hd ▸ denotes_object_of_forall₂ hne hmembers)

end IbanWatch.Json
