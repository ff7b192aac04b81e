import IbanWatch.Proofs.Event.Decoding
import IbanWatch.Proofs.Json.Standard
import IbanWatch.Proofs.Watch.Handling

/-!
# Members that nobody asks for

A later version of an event may have members that are not known yet.  Here one more member is put
into the object of a payload, at any place, under any key that does not matter, and with any JSON
for its value.  If that is within the bounds of the reader, nothing changes.  If it is not, the
reader refuses the payload as a whole: a member that nobody asks for takes the event with it.

## Main definitions

* `Extends` — a payload is another one with one more member in its object.
* `Tolerates` — what becomes of an event by one more member of its payload.

## Main results

* `exists_extends` — a member can be put into the payload of an event at any place.
* `ofMembers_insert` — a member whose key does not matter makes no other event.
* `tolerates_of_extends` — **an event is the same with one more member just when the reader can take
  the member**, and else it is lost.
-/

namespace IbanWatch

open Text Json

namespace AuditEvent

/-! ### One more member -/

/-- The second payload is the first with this member somewhere among the members of its object. -/
def Extends (m : MemberSource) (payload extended : Bytes) : Prop :=
  ∃ earlier later, IsObject (earlier ++ later) payload ∧ IsObject (earlier ++ m :: later) extended

/-- **A member can be put into the payload of an event**, and at any place. -/
theorem exists_extends {payload : Bytes} {event : AuditEvent} (h : decode payload = .ok event)
    {m : MemberSource} (hm : m.IsWritten) : ∃ parts, IsObject parts payload
      ∧ ∀ earlier later, parts = earlier ++ later →
        ∃ extended, IsObject (earlier ++ m :: later) extended := by
  obtain ⟨members, hholds, -⟩ := decode_eq_ok_iff.mp h
  obtain ⟨parts, hparts⟩ := exists_isObject hholds
  refine ⟨parts, hparts, ?_⟩
  rintro earlier later rfl
  obtain ⟨hearlier, hlater⟩ := List.forall_mem_append.mp hparts.isWritten
  exact ⟨_, isObject_of_isWritten
    (List.forall_mem_append.mpr ⟨hearlier, List.forall_mem_cons.mpr ⟨hm, hlater⟩⟩)⟩

/-- A member whose key does not matter makes no other event. -/
theorem ofMembers_insert (earlier later : List (String × Value)) {a : String × Value}
    (ha : a.1 ∉ knownKeys) : ofMembers (earlier ++ a :: later) = ofMembers (earlier ++ later) := by
  refine ofMembers_congr fun key hkey => ?_
  have hne : a.1 ≠ key := by
    rintro rfl
    exact ha hkey
  rw [List.filter_append, List.filter_append, List.filter_cons, if_neg (by simpa using hne)]

/-- What some members denote is what the first of them denote, and then the others. -/
theorem forall₂_append_left {α β : Type} {R : α → β → Prop} {xs xs' : List α} {ys : List β}
    (h : List.Forall₂ R (xs ++ xs') ys) :
    ∃ zs zs', ys = zs ++ zs' ∧ List.Forall₂ R xs zs ∧ List.Forall₂ R xs' zs' := by
  induction xs generalizing ys with
  | nil => exact ⟨[], ys, rfl, .nil, h⟩
  | cons x xs ih =>
    cases h with
    | cons hx h =>
      obtain ⟨zs, zs', rfl, hzs, hzs'⟩ := ih h
      exact ⟨_ :: zs, zs', rfl, .cons hx hzs, hzs'⟩

/-- An object with a member that the reader cannot take is read as nothing. -/
theorem not_holds_of_not_isReadable {m : MemberSource} {earlier later : List MemberSource}
    {payload : Bytes} (h : IsObject (earlier ++ m :: later) payload) (hm : ¬ m.IsReadable)
    (v : Value) : ¬ Holds payload v := by
  intro hv
  obtain ⟨d, members, hd, rfl, hmembers⟩ := h.holds_iff.mp hv
  obtain ⟨_, _, rfl, -, hrest⟩ := forall₂_append_left hmembers
  cases hrest with
  | cons ha _ =>
    obtain rfl : d = maxDepth - 1 := by omega
    exact hm ⟨_, ha⟩

/-- A member that the reader can take changes nothing, if its key does not matter. -/
theorem decode_eq_of_isReadable {m : MemberSource}
    (hkey : ∀ key ∈ knownKeys, ¬ Quotes m.keyText key)
    (hm : m.IsReadable) {payload extended : Bytes} (h : Extends m payload extended) {v : Value}
    (hv : Holds payload v) : decode extended = decode payload := by
  obtain ⟨earlier, later, hpayload, hextended⟩ := h
  obtain ⟨d, members, hd, rfl, hmembers⟩ := hpayload.holds_iff.mp hv
  obtain ⟨before, behind, rfl, hbefore, hbehind⟩ := forall₂_append_left hmembers
  obtain ⟨a, ha⟩ := hm
  obtain rfl : d = maxDepth - 1 := by omega
  have hheld : Holds extended (.object (before ++ a :: behind)) :=
    hextended.holds_iff.mpr ⟨_, _, hd, rfl, List.rel_append hbefore (.cons ha hbehind)⟩
  rw [decode_of_object hv, decode_of_object hheld]
  exact ofMembers_insert before behind fun hmem => hkey a.1 hmem ha.key

/-! ### Events -/

/-- What becomes of an event by one more member of its payload. -/
structure Tolerates (m : MemberSource) (payload extended : Bytes) (event : AuditEvent) : Prop where
  /-- If the reader can take the member, the event is the same. -/
  event : m.IsReadable → decode extended = .ok event
  /-- Then every watch does the same with it, whatever the event is. -/
  verdict : m.IsReadable → ∀ (w : Watch) (msg : Message),
    w.process { msg with payload := some extended } = w.process { msg with payload := some payload }
  /-- If the reader cannot, no watch does anything with the event: what it comes to is a failure to
  decode, and there is neither a call nor a line. -/
  lost : ¬ m.IsReadable → ∃ cause place, decode extended = .error (.notJson cause place)
    ∧ ∀ (w : Watch) (msg : Message), w.process { msg with payload := some extended }
      = ⟨.returned (.error (.decode (Misread.notJson cause place).message)), w, []⟩

/-- **An event is the same with one more member just when the reader can take the member**, wherever
the member stands, if its key does not matter; and else the event is lost. -/
theorem tolerates_of_extends {m : MemberSource} {payload extended : Bytes} {event : AuditEvent}
    (hkey : ∀ key ∈ knownKeys, ¬ Quotes m.keyText key) (h : Extends m payload extended)
    (hevent : decode payload = .ok event) : Tolerates m payload extended event := by
  obtain ⟨members, hholds, -⟩ := decode_eq_ok_iff.mp hevent
  refine ⟨fun hm => ?_, fun hm w msg => ?_, fun hm => ?_⟩
  · rw [decode_eq_of_isReadable hkey hm h hholds, hevent]
  · have heq := decode_eq_of_isReadable hkey hm h hholds
    simp only [Watch.process, Watch.eventOf, heq]
  · obtain ⟨earlier, later, -, hextended⟩ := h
    obtain ⟨cause, place, hrefused⟩ :=
      decode_eq_notJson_iff.mpr (not_holds_of_not_isReadable hextended hm)
    refine ⟨cause, place, hrefused, fun w msg => ?_⟩
    simp only [Watch.process, Watch.eventOf, hrefused]

/-! ### Notes -/

/-- The characters between quotes. -/
def quoted (s : String) : List Char := '"' :: (s.toList ++ ['"'])

/-- A member whose value is a string, both written between quotes as given. -/
def textMember (key value : String) : MemberSource := ⟨[], quoted key, [], quoted value⟩

/-- The characters can stand between quotes by themselves. -/
def IsPlain (s : String) : Prop := ∀ c ∈ s.toList, ' ' ≤ c ∧ c ≠ '"' ∧ c ≠ '\\'

instance (s : String) : Decidable (IsPlain s) := List.decidableBAll _ s.toList

theorem quotes_quoted {s : String} (h : IsPlain s) : Quotes (quoted s) s :=
  ⟨s.toList, rfl, spellsAll_of_plain h⟩

theorem isWritten_textMember {key value : String} (hkey : IsPlain key)
    (hvalue : BodyText value.toList) : (textMember key value).IsWritten :=
  ⟨⟨isBlank_nil, isBlank_nil, .of_quotes (quotes_quoted hkey)⟩, .text ⟨_, rfl, hvalue⟩⟩

/-- An event with an identifier that is not valid. -/
def suspectEvent : AuditEvent := ⟨"IBAN_UPDATED", "u1", "X"⟩

/-- The members of the event. -/
def suspectParts : List MemberSource :=
  [textMember "EventType" "IBAN_UPDATED", textMember "UserId" "u1", textMember "NewIban" "X"]

/-- The payload of the event. -/
def suspectPayload : Bytes := encoded (objectText suspectParts)

/-- A note, which is a member under a key that does not matter. -/
def note (value : String) : MemberSource := textMember "Note" value

/-- The payload of the event with a note behind its members. -/
def notedPayload (value : String) : Bytes := encoded (objectText (suspectParts ++ [note value]))

example : objectText (suspectParts ++ [note "\\ud83d"])
    = ("\x7b\"EventType\":\"IBAN_UPDATED\",\"UserId\":\"u1\",\"NewIban\":\"X\","
      ++ "\"Note\":\"\\ud83d\"\x7d").toList := by
  decide

theorem not_quotes_note (value : String) :
    ∀ key ∈ knownKeys, ¬ Quotes (note value).keyText key := by
  intro key hkey h
  have hnote : Quotes (note value).keyText "Note" := quotes_quoted (by decide)
  rw [h.unique hnote] at hkey
  exact absurd hkey (by decide)

theorem extends_note {value : String} (h : BodyText value.toList) :
    Extends (note value) suspectPayload (notedPayload value) := by
  have hplain {key value : String} (hkey : IsPlain key) (hvalue : IsPlain value) :
      (textMember key value).IsWritten :=
    isWritten_textMember hkey (.of_spellsAll (spellsAll_of_plain hvalue))
  have hparts : ∀ p ∈ suspectParts, p.IsWritten := by
    simp only [suspectParts, List.forall_mem_cons]
    exact ⟨hplain (by decide) (by decide), hplain (by decide) (by decide),
      hplain (by decide) (by decide), nofun⟩
  have hnote : (note value).IsWritten := isWritten_textMember (by decide) h
  refine ⟨suspectParts, [], ?_, ?_⟩
  · rw [List.append_nil]
    exact isObject_of_isWritten hparts
  · exact isObject_of_isWritten
      (List.forall_mem_append.mpr ⟨hparts, List.forall_mem_cons.mpr ⟨hnote, nofun⟩⟩)

theorem decode_suspectPayload : decode suspectPayload = .ok suspectEvent := by
  have h : (decode suspectPayload).toOption = some suspectEvent := by decide +kernel
  cases hd : decode suspectPayload with
  | error misread =>
    rw [hd] at h
    cases h
  | ok event =>
    rw [hd] at h
    rw [Option.some.inj h]

/-- A note in plain characters is passed over. -/
theorem tolerates_note : (∀ key ∈ knownKeys, ¬ Quotes (note "seen").keyText key)
    ∧ Extends (note "seen") suspectPayload (notedPayload "seen")
    ∧ decode suspectPayload = .ok suspectEvent
    ∧ Tolerates (note "seen") suspectPayload (notedPayload "seen") suspectEvent
    ∧ decode (notedPayload "seen") = .ok suspectEvent := by
  have hseen : IsPlain "seen" := by decide
  have hplain := spellsAll_of_plain hseen
  have hreadable : (note "seen").IsReadable :=
    ⟨("Note", .text "seen"), isBlank_nil, isBlank_nil, quotes_quoted (by decide),
      .scalar (.text ⟨_, rfl, hplain⟩)⟩
  have hextends := extends_note (.of_spellsAll hplain)
  have htolerates := tolerates_of_extends (not_quotes_note "seen") hextends decode_suspectPayload
  exact ⟨not_quotes_note "seen", hextends, decode_suspectPayload, htolerates,
    htolerates.event hreadable⟩

/-- A note that is half of a surrogate pair is JSON, and with it the event is lost: the alert that
is due for it is due no more. -/
theorem lost_note : (∀ key ∈ knownKeys, ¬ Quotes (note "\\ud83d").keyText key)
    ∧ (note "\\ud83d").IsWritten
    ∧ Extends (note "\\ud83d") suspectPayload (notedPayload "\\ud83d")
    ∧ decode suspectPayload = .ok suspectEvent
    ∧ decode (notedPayload "\\ud83d") ≠ .ok suspectEvent
    ∧ Message.suspect? { payload := some suspectPayload } = some suspectEvent
    ∧ Message.suspect? { payload := some (notedPayload "\\ud83d") } = none := by
  have hhalf : IsHexWord ['d', '8', '3', 'd'] 0xD83D := ⟨rfl, List.all_eq_true.mp rfl, rfl⟩
  have hbody : BodyText "\\ud83d".toList := .code hhalf .nil
  have hlost : (decode (notedPayload "\\ud83d")).toOption = none := by decide +kernel
  refine ⟨not_quotes_note _, isWritten_textMember (by decide) hbody, extends_note hbody,
    decode_suspectPayload, fun h => ?_, by decide +kernel, by decide +kernel⟩
  rw [h] at hlost
  cases hlost

end AuditEvent

end IbanWatch
