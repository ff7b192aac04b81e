import IbanWatch.Proofs.Text.Quoting
import IbanWatch.Proofs.Watch.Agreement
import IbanWatch.Proofs.Watch.Logs

/-!
# No message forges a line

Whoever writes a message chooses what is in it, and some of that is shown in the log: the kind of an
event, its user, the identifier with the character at fault, and a value that should have been a
string.  All of it is quoted, and all else in a line is fixed text and numerals.  So a character
that could disturb a line can only come from the text of a failure of the emitter, which is shown as
it is.  And the line that tells of an event tells which kind and which user it was.

## Main definitions

* `Failure.text`, `Emitter.failures` — the text of a failure, and all failures of an emitter.
* `ForgesNothing` — what a message cannot do to the log.

## Main results

* `Misread.clean_message` — why a payload is no event is said without disturbing a line.
* `clean_or_mem_failures` — a message fails with a clean text, or with a failure of the emitter.
* `mem_failures_of_disturbs` — what disturbs a line comes from the emitter.
* `received_inj` — the line about an event is known by its kind and its user.
* `forgesNothing` — **no message forges a line**.
-/

namespace IbanWatch

open Text Json

/-! ### Fixed words, numerals and quotations -/

theorem clean_string_append {s t : String} :
    Clean (s ++ t).toList ↔ Clean s.toList ∧ Clean t.toList := by
  rw [String.toList_append, clean_append]

theorem mem_of_disturbs {lead s : String} {c : Char} (hlead : Clean lead.toList)
    (hc : c ∈ (lead ++ s).toList) (hd : Disturbs c) : c ∈ s.toList := by
  rw [String.toList_append, List.mem_append] at hc
  exact hc.resolve_left fun hfront => hlead c hfront hd

theorem clean_replicate {c : Char} (hc : ¬ Disturbs c) (n : Nat) : Clean (List.replicate n c) := by
  intro d hd
  rw [List.eq_of_mem_replicate hd]
  exact hc

theorem clean_digitText (d : Decimal) : Clean d.digitText :=
  clean_toDigits (by decide) (by decide) _

theorem clean_positional {whole : List Char} (hwhole : Clean whole) (d : Decimal) :
    Clean (d.positional whole) := by
  have hzero : ¬ Disturbs '0' := by decide
  have hpoint : ¬ Disturbs '.' := by decide
  have hdigits := clean_digitText d
  simp only [Decimal.positional]
  -- The point stands behind all digits, among them or in front of them.
  split
  · exact clean_append.mpr ⟨clean_append.mpr ⟨hdigits, clean_replicate hzero _⟩, hwhole⟩
  split
  · exact clean_append.mpr ⟨hdigits.sublist (List.take_sublist ..),
      clean_cons.mpr ⟨hpoint, hdigits.sublist (List.drop_sublist ..)⟩⟩
  · exact clean_cons.mpr ⟨hzero, clean_cons.mpr ⟨hpoint,
      clean_append.mpr ⟨clean_replicate hzero _, hdigits⟩⟩⟩

theorem clean_scientific (d : Decimal) : Clean d.scientific := by
  have hpoint : ¬ Disturbs '.' := by decide
  have hmark : ¬ Disturbs 'e' := by decide
  have hsigns : ¬ Disturbs '+' ∧ ¬ Disturbs '-' := by decide
  have hdigits := clean_digitText d
  have hexponent : Clean (Nat.toDigits 10 d.leadingExponent.natAbs) :=
    clean_toDigits (by decide) (by decide) _
  simp only [Decimal.scientific]
  refine clean_append.mpr ⟨?_, clean_cons.mpr ⟨hmark, clean_cons.mpr ⟨?_, hexponent⟩⟩⟩
  · split
    · next heq =>
      rw [heq] at hdigits
      obtain ⟨hfirst, hrest⟩ := clean_cons.mp hdigits
      exact clean_cons.mpr ⟨hfirst, clean_cons.mpr ⟨hpoint, hrest⟩⟩
    · exact hdigits
  · split
    · exact hsigns.1
    · exact hsigns.2

/-- **A double in words disturbs no line.** -/
theorem clean_compactText (x : Float) : Clean (compactText x).toList := by
  have hsign : Clean (signText x) := by
    rw [signText]
    split <;> decide
  simp only [compactText, String.toList_ofList]
  refine clean_append.mpr ⟨hsign, ?_⟩
  split
  · exact clean_positional (by decide) _
  · exact clean_scientific _

/-! ### What can be said of a message -/

theorem Iban.Defect.clean_message (d : Defect) : Clean d.message.toList := by
  rw [message.eq_def]
  cases d with
  | empty => decide
  | wrongCountry => decide
  | wrongLength found =>
    have hlead : Clean "expected 24 characters, found ".toList := by decide
    simp only [toString]
    exact clean_string_append.mpr ⟨hlead, clean_repr found⟩
  | malformed position found =>
    -- The character at fault is the only part that the message chooses, and it is quoted.
    have hlead : Clean "unexpected character ".toList := by decide
    have hplace : Clean " at position ".toList := by decide
    simp only [toString, clean_string_append]
    exact ⟨⟨⟨hlead, clean_quotedChar found⟩, hplace⟩, clean_repr position⟩
  | checksum remainder =>
    have hlead : Clean "checksum mismatch (remainder ".toList := by decide
    have hclose : Clean ")".toList := by decide
    simp only [toString, clean_string_append]
    exact ⟨⟨hlead, clean_repr remainder⟩, hclose⟩

theorem Json.Cause.clean_message : ∀ cause : Cause, Clean cause.message.toList := by
  intro cause
  cases cause <;> decide

theorem Json.Value.clean_kind (v : Value) : Clean v.kind.toList := by
  rw [kind.eq_def]
  cases v <;> dsimp only <;> decide

/-- A value is described without its content, but for scalars, and a string among these is
quoted. -/
theorem Json.Value.clean_description (v : Value) : Clean v.description.toList := by
  rw [description.eq_def]
  have hclose : Clean "`".toList := by decide
  cases v with
  | null => decide
  | bool b => cases b <;> decide
  | number n =>
    cases n with
    | integer n =>
      have hlead : Clean "integer `".toList := by decide
      simp only [toString, clean_string_append]
      exact ⟨⟨hlead, clean_repr_int n⟩, hclose⟩
    | real x =>
      have hlead : Clean "floating point `".toList := by decide
      simp only [toString, clean_string_append]
      exact ⟨⟨hlead, clean_compactText x⟩, hclose⟩
  | text s =>
    have hlead : Clean "string ".toList := by decide
    simp only [toString, clean_string_append]
    exact ⟨hlead, clean_quoted s⟩
  | list items => dsimp only; decide
  | object members => dsimp only; decide

/-- **Why a payload is no event is said without disturbing a line**, whatever is in it. -/
theorem Misread.clean_message (misread : Misread) : Clean misread.message.toList := by
  rw [message.eq_def]
  cases misread with
  | notJson cause place =>
    have hlead : Clean "invalid JSON: ".toList := by decide
    have hline : Clean " at line ".toList := by decide
    have hcolumn : Clean " column ".toList := by decide
    simp only [toString, clean_string_append]
    exact ⟨⟨⟨⟨⟨hlead, cause.clean_message⟩, hline⟩, clean_repr place.line⟩, hcolumn⟩,
      clean_repr place.column⟩
  | notObject found =>
    have hlead : Clean "expected a JSON object, found ".toList := by decide
    simp only [toString, clean_string_append]
    exact ⟨hlead, found.clean_kind⟩
  | notString found =>
    -- Of what was found only a scalar is shown, and its description is clean.
    have hlead : Clean "invalid type: ".toList := by decide
    have hend : Clean ", expected a string".toList := by decide
    simp only [toString, clean_string_append]
    exact ⟨⟨hlead, found.clean_description⟩, hend⟩

/-- A message that cannot be understood disturbs no line by the reason. -/
theorem Message.clean_unread {m : Message} {text : String} (h : m.reading = .unread text) :
    Clean text.toList := by
  rw [reading] at h
  -- Only without a payload or an event is a message left unread.
  cases hp : m.payload.map AuditEvent.decode with
  | none =>
    simp only [hp] at h
    cases h
    decide
  | some result =>
    cases result with
    | error misread =>
      simp only [hp] at h
      cases h
      exact misread.clean_message
    | ok event =>
      simp only [hp, AuditEvent.reading] at h
      split at h
      · split at h <;> cases h
      · cases h

/-! ### Failures -/

/-- The text of a failure, without its stage. -/
def Failure.text : Failure → String
  | .transport text | .decode text | .delivery text => text

/-- The failures of the emitter in the calls to come. -/
def Emitter.failures (e : Emitter) : List Failure :=
  (e.sends ++ e.flushes).filterMap (·.ending.failure?)

theorem Failure.exists_message (f : Failure) : ∃ stage : String,
    Clean stage.toList ∧ f.message = stage ++ f.text := by
  cases f with
  | transport text => exact ⟨"transport error: ", by decide, rfl⟩
  | decode text => exact ⟨"decode error: ", by decide, rfl⟩
  | delivery text => exact ⟨"delivery error: ", by decide, rfl⟩

namespace Emitter

theorem mem_failures_of_headD {replies : List EmitterReply} {f : Failure}
    (h : (replies.headD {}).ending = .fails f) :
    f ∈ replies.filterMap (·.ending.failure?) := by
  cases replies with
  | nil => cases h
  | cons reply rest =>
    refine List.mem_filterMap.mpr ⟨reply, List.mem_cons_self, ?_⟩
    rw [List.headD_cons] at h
    rw [h]
    rfl

theorem mem_failures_of_sends {e : Emitter} {f : Failure} (h : e.takeSend.1.ending = .fails f) :
    f ∈ e.failures := by
  rw [failures, List.filterMap_append]
  exact List.mem_append_left _ (mem_failures_of_headD h)

theorem mem_failures_of_flushes {e : Emitter} {f : Failure}
    (h : e.takeFlush.1.ending = .fails f) : f ∈ e.failures := by
  rw [failures, List.filterMap_append]
  exact List.mem_append_right _ (mem_failures_of_headD h)

end Emitter

namespace Watch

theorem callEnd_of_ending {e : CallEnd} {f : Failure} (h : e.ending = .returned (.error f)) :
    e = .fails f := by
  cases e with
  | succeeds => cases h
  | fails g => cases h; rfl
  | unwinds => cases h

/-- An alert fails with a failure of the emitter. -/
theorem mem_failures_of_emit {w : Watch} {event : AuditEvent} {f : Failure}
    (h : (w.emit event).ending = .returned (.error f)) : f ∈ w.emitter.failures := by
  by_cases htaken : w.sendReply.ending = .succeeds
  · rw [emit_of_taken event htaken] at h
    -- The flush is answered after the alert, by the same row of answers.
    have hflushes : (w.send event).watch.countAlert.emitter.flushes = w.emitter.flushes := by
      show (w.emitter.takeSend.2).flushes = _
      rw [Emitter.takeSend, Emitter.flushes_learn]
    have hreply : (w.emitter.flushes.headD {}).ending = .fails f := by
      rw [← hflushes]
      exact callEnd_of_ending h
    exact Emitter.mem_failures_of_flushes hreply
  · rw [emit_of_not_taken event htaken] at h
    exact Emitter.mem_failures_of_sends (callEnd_of_ending h)

/-- **What a message fails with is clean, or a failure of the emitter.** -/
theorem clean_or_mem_failures {w : Watch} {m : Message} {f : Failure}
    (h : (w.follow m.reading).ending = .returned (.error f)) :
    Clean f.text.toList ∨ f ∈ w.emitter.failures := by
  cases hr : m.reading with
  | unread text =>
    rw [hr] at h
    cases h
    exact .inl (m.clean_unread hr)
  | other event =>
    rw [hr] at h
    cases h
  | valid event =>
    rw [hr] at h
    cases h
  | suspect event reason =>
    rw [hr] at h
    -- Raising the alert changes what a success gives back, and leaves a failure as it is.
    have hemit : (w.countEvent.emit event).ending = .returned (.error f) := by
      have hmap : (w.countEvent.emit event).ending.map (·.map fun _ => Verdict.alertRaised)
          = .returned (.error f) := h
      cases hending : (w.countEvent.emit event).ending with
      | unwound => rw [hending] at hmap; cases hmap
      | returned result =>
        rw [hending] at hmap
        cases result with
        | ok u => cases hmap
        | error g => cases hmap; rfl
    exact .inr (mem_failures_of_emit (w := w.countEvent) hemit)

end Watch

/-! ### Lines -/

namespace LogLine

theorem clean_received (event : AuditEvent) : Clean (received event).text.toList := by
  have hlead : Clean "Received audit event ".toList := by decide
  have huser : Clean " for user ".toList := by decide
  rw [text.eq_def]
  simp only [toString, clean_string_append]
  exact ⟨⟨⟨hlead, clean_quoted _⟩, huser⟩, clean_quoted _⟩

theorem clean_safe (event : AuditEvent) : Clean (safe event).text.toList := by
  have hlead : Clean "IBAN for user ".toList := by decide
  have hend : Clean " looks safe".toList := by decide
  rw [text.eq_def]
  simp only [toString, clean_string_append]
  exact ⟨⟨hlead, clean_quoted _⟩, hend⟩

theorem clean_suspicious (event : AuditEvent) (reason : Iban.Defect) :
    Clean (suspicious event reason).text.toList := by
  have hlead : Clean "Suspicious IBAN ".toList := by decide
  have huser : Clean " for user ".toList := by decide
  have hcolon : Clean ": ".toList := by decide
  rw [text.eq_def]
  simp only [toString, clean_string_append]
  exact ⟨⟨⟨⟨⟨hlead, clean_quoted _⟩, huser⟩, clean_quoted _⟩, hcolon⟩, reason.clean_message⟩

/-- Before the failure, the line of a failed message has fixed words and the place of the
message. -/
theorem exists_text_failed (partition offset : Int) (f : Failure) : ∃ lead : String,
    Clean lead.toList ∧ (failed partition offset f).text = lead ++ f.message := by
  have hoffset : Clean " offset ".toList := by decide
  have hcolon : Clean ": ".toList := by decide
  have hother : Clean "Error processing message at partition ".toList := by decide
  have halert : Clean "Failed to deliver fraud alert for message at partition ".toList := by
    decide
  -- The three lines differ in their first words only.
  have hplace : ∀ {lead : String}, Clean lead.toList →
      Clean (lead ++ partition.repr ++ " offset " ++ offset.repr ++ ": ").toList := by
    intro lead hlead
    simp only [clean_string_append]
    exact ⟨⟨⟨⟨hlead, clean_repr_int partition⟩, hoffset⟩, clean_repr_int offset⟩, hcolon⟩
  rw [text.eq_def]
  cases f with
  | delivery problem => exact ⟨_, hplace halert, rfl⟩
  | transport problem => exact ⟨_, hplace hother, rfl⟩
  | decode problem => exact ⟨_, hplace hother, rfl⟩

/-- What disturbs the line of a failed message is in the text of the failure. -/
theorem mem_text_of_disturbs {partition offset : Int} {f : Failure} {c : Char}
    (hc : c ∈ (failed partition offset f).text.toList) (hd : Disturbs c) : c ∈ f.text.toList := by
  obtain ⟨lead, hlead, htext⟩ := exists_text_failed partition offset f
  obtain ⟨stage, hstage, hmessage⟩ := f.exists_message
  rw [htext, hmessage] at hc
  exact mem_of_disturbs hstage (mem_of_disturbs hlead hc hd) hd

/-- **The line about an event is known by its kind and its user.** -/
theorem received_inj {e e' : AuditEvent} (h : (received e).text = (received e').text) :
    e.eventType = e'.eventType ∧ e.userId = e'.userId := by
  have hlist := congrArg String.toList h
  rw [text.eq_def, text.eq_def] at hlist
  simp only [toString, String.toList_append, List.append_assoc, List.append_cancel_left_eq]
    at hlist
  -- The kind is quoted behind fixed words, and the user behind what follows it.
  obtain ⟨hkind, hbehind⟩ := quoted_append_inj hlist
  rw [List.append_cancel_left_eq, ← List.append_nil (quoted e.userId).toList,
    ← List.append_nil (quoted e'.userId).toList] at hbehind
  exact ⟨hkind, (quoted_append_inj hbehind).1⟩

end LogLine

namespace Watch

/-- Before it is known what becomes of a message, nothing in the lines disturbs them. -/
theorem clean_of_mem_follow {w : Watch} {r : Reading} :
    ∀ l ∈ (w.follow r).trace.lines, Clean l.text.toList := by
  intro l hl
  cases r with
  | unread text => exact absurd hl List.not_mem_nil
  | other event =>
    rw [List.mem_singleton.mp hl]
    exact LogLine.clean_received event
  | valid event =>
    rcases List.mem_pair.mp hl with rfl | rfl
    · exact LogLine.clean_received event
    · exact LogLine.clean_safe event
  | suspect event reason =>
    rw [lines_follow_suspect] at hl
    rcases List.mem_pair.mp hl with rfl | rfl
    · exact LogLine.clean_received event
    · exact LogLine.clean_suspicious event reason

/-- **What disturbs a line comes from the emitter**: it is in the text of one of its failures. -/
theorem mem_failures_of_disturbs {w : Watch} {m : Message} {l : LogLine}
    (hl : l ∈ (w.handle (.message m)).trace.lines) {c : Char} (hc : c ∈ l.text.toList)
    (hd : Disturbs c) : ∃ f ∈ w.emitter.failures, c ∈ f.text.toList := by
  have hclean := clean_of_mem_follow (w := w.countMessage) (r := m.reading)
  rw [handle_message] at hl
  cases hending : (w.countMessage.follow m.reading).ending with
  | unwound =>
    simp only [hending] at hl
    exact absurd hd (hclean l hl c hc)
  | returned result =>
    simp only [hending, Trace.lines_append, List.mem_append] at hl
    rcases hl with hl | hl
    · exact absurd hd (hclean l hl c hc)
    cases result with
    | ok verdict => exact absurd hl List.not_mem_nil
    | error f =>
      rw [List.mem_singleton.mp hl] at hc
      have htext := LogLine.mem_text_of_disturbs hc hd
      rcases clean_or_mem_failures hending with hown | hemitter
      · exact absurd hd (hown c htext)
      · exact ⟨f, hemitter, htext⟩

/-- What a message cannot do to the log of a watch. -/
structure ForgesNothing (w : Watch) (m : Message) : Prop where
  /-- What disturbs a line is in the text of a failure of the emitter. -/
  disturbing : ∀ l ∈ (w.handle (.message m)).trace.lines, ∀ c ∈ l.text.toList, Disturbs c →
    ∃ f ∈ w.emitter.failures, c ∈ f.text.toList
  /-- Where there is no control character in these texts, there is none in a line. -/
  controls : (∀ f ∈ w.emitter.failures, ∀ c ∈ f.text.toList, ¬ IsControl c) →
    ∀ l ∈ (w.handle (.message m)).trace.lines, ∀ c ∈ l.text.toList, ¬ IsControl c
  /-- Where there is no separator of lines or paragraphs in them either, a line has neither. -/
  clean : (∀ f ∈ w.emitter.failures, Clean f.text.toList) →
    ∀ l ∈ (w.handle (.message m)).trace.lines, Clean l.text.toList
  /-- The lines about two events are the same only for one kind and one user. -/
  received : ∀ e e' : AuditEvent, (LogLine.received e).text = (LogLine.received e').text →
    e.eventType = e'.eventType ∧ e.userId = e'.userId

/-- **No message forges a line.** -/
theorem forgesNothing (w : Watch) (m : Message) : w.ForgesNothing m := by
  refine ⟨fun l hl c hc hd => mem_failures_of_disturbs hl hc hd, ?_, ?_,
    fun e e' h => LogLine.received_inj h⟩
  · intro hfailures l hl c hc hcontrol
    obtain ⟨f, hf, hcf⟩ := mem_failures_of_disturbs hl hc (.inl hcontrol)
    exact hfailures f hf c hcf hcontrol
  · intro hfailures l hl c hc hd
    obtain ⟨f, hf, hcf⟩ := mem_failures_of_disturbs hl hc hd
    exact hfailures f hf c hcf hd

/-- **The text of a failure is shown as it is**: there is no control character in it, and yet its
separator of lines is in the log. -/
theorem separator_in_line :
    let w := refusing (.delivery "a\u2028b")
    (∀ f ∈ w.emitter.failures, ∀ c ∈ f.text.toList, ¬ IsControl c)
      ∧ ∃ l ∈ (w.handle (.message badUpdate)).trace.lines, ∃ c ∈ l.text.toList, IsLineBreak c := by
  intro w
  have hfailures : w.emitter.failures = [.delivery "a\u2028b"] := rfl
  have hline : LogLine.failed 0 0 (.delivery "a\u2028b")
      ∈ (w.handle (.message badUpdate)).trace.lines := by decide +kernel
  have hchars : ("a\u2028b".toList.all fun c => !decide (IsControl c)) = true := by decide +kernel
  have hseparator : '\u2028' ∈ (LogLine.failed 0 0 (.delivery "a\u2028b")).text.toList := by
    decide +kernel
  refine ⟨?_, _, hline, _, hseparator, .inl rfl⟩
  rw [hfailures]
  intro f hf c hc hcontrol
  rw [List.mem_singleton.mp hf] at hc
  have hnot := List.all_eq_true.mp hchars c hc
  rw [decide_eq_true hcontrol] at hnot
  cases hnot

end Watch

end IbanWatch
