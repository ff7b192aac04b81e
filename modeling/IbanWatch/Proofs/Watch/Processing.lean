import IbanWatch.Proofs.Watch.Balance

/-!
# What one message does to a watch

A message that is handed in is taken through several steps, any of which may end it, and the counts
go up in between.  Here it is said for every watch, so also for one whose earlier messages failed or
unwound, what is different after one more message: two counts may be higher by one, each on a
condition of its own, and all else that the watch holds of itself is as it was.

An alert is handed over in one of two courses: it is not taken, and then nothing is flushed, or it
is taken, counted and flushed.  The count is between the two calls, so it stays whatever becomes of
the flush.

## Main definitions

* `Message.IsUpdate` — the message gives a user a new identifier.
* `Watch.Emits` — how an alert is handed over.
* `Watch.LeavesAlone` — what no message changes.
* `Watch.Processes` — everything that processing a message does.

## Main results

* `emits_emit` — the two courses of an alert.
* `leavesAlone_answers` — what a row of requests leaves alone.
* `processes_after` — **what one message does, wherever it ends and whatever was before it**.
-/

namespace IbanWatch

open Text Shutdown

/-! ### Messages that give a user a new identifier -/

/-- The message gives a user a new identifier, valid or not. -/
def Message.IsUpdate (m : Message) : Prop :=
  ∃ payload event, m.payload = some payload ∧ AuditEvent.decode payload = .ok event
    ∧ event.eventType = ibanUpdated

namespace Message

/-- Such a message reads as one whose identifier is valid or suspect, and no other message does. -/
theorem isUpdate_iff {m : Message} : m.IsUpdate ↔
    (∃ event, m.reading = .valid event) ∨ ∃ event reason, m.reading = .suspect event reason := by
  constructor
  · rintro ⟨payload, event, hp, hd, hk⟩
    -- The identifier is only checked for events of this kind.
    rw [reading_of_decode hp hd, AuditEvent.reading, if_pos hk]
    cases Iban.check event.newIban with
    | ok u => exact .inl ⟨event, rfl⟩
    | error reason => exact .inr ⟨event, reason, rfl⟩
  · rintro (⟨event, hr⟩ | ⟨event, reason, hr⟩)
    · have hvalid : m.isValid = true := by rw [isValid, hr]
      obtain ⟨payload, found, hp, hd, hk, -⟩ := isValid_iff.mp hvalid
      exact ⟨payload, found, hp, hd, hk⟩
    · have hsuspect : m.suspect? = some event := by rw [suspect?, hr]
      obtain ⟨⟨payload, hp, hd⟩, hk, -⟩ := suspect?_eq_some_iff.mp hsuspect
      exact ⟨payload, event, hp, hd, hk⟩

end Message

/-- A call that hands over an alert waits for no acknowledgement. -/
theorem Call.isFlush_of_isSend {c : Call} (h : c.isSend = true) : c.isFlush = false := by
  cases c with
  | send topic key payload => rfl
  | poll timeout => rfl
  | flush timeout => cases h
  | close => rfl

namespace Watch

/-! ### The two courses of an alert -/

/-- How an alert is handed over: the calls of the emitter with their answers, how it ends, and the
counts after it. -/
inductive Emits (s : Stats) : List Exchange → Ending (Except Failure Unit) → Stats → Prop where
  /-- The emitter does not take the alert, and nothing is flushed. -/
  | refused {call : Call} {reply : EmitterReply} (hsend : call.isSend = true)
      (hreply : reply.ending ≠ .succeeds) : Emits s [⟨call, reply⟩] reply.ending.ending s
  /-- The emitter takes the alert, which is counted, and then a flush ends it in one way or
  another. -/
  | taken {call flush : Call} {reply flushed : EmitterReply} (hsend : call.isSend = true)
      (hflush : flush.isFlush = true) (hreply : reply.ending = .succeeds) :
      Emits s [⟨call, reply⟩, ⟨flush, flushed⟩] flushed.ending.ending
        { s with alertsRaised := s.alertsRaised + 1 }

/-- **An alert is handed over in one of two courses.** -/
theorem emits_emit (w : Watch) (event : AuditEvent) :
    Emits w.counts (w.emit event).trace.exchanges (w.emit event).ending
      (w.emit event).watch.counts := by
  by_cases h : w.sendReply.ending = .succeeds
  · rw [emit_of_taken event h]
    exact .taken rfl rfl h
  · rw [emit_of_not_taken event h]
    exact .refused rfl h

namespace Emits

variable {s s' : Stats} {exchanges : List Exchange} {ending : Ending (Except Failure Unit)}

/-- Only the alerts are counted. -/
theorem ibanEvents (h : Emits s exchanges ending s') : s'.ibanEvents = s.ibanEvents := by
  cases h <;> rfl

/-- The count of the alerts goes up by one just when the alert is taken. -/
theorem alertsRaised (h : Emits s exchanges ending s') :
    ((∃ e ∈ exchanges, e.isTaken = true) → s'.alertsRaised = s.alertsRaised + 1)
      ∧ ((¬ ∃ e ∈ exchanges, e.isTaken = true) → s'.alertsRaised = s.alertsRaised) := by
  cases h with
  | refused hsend hreply =>
    -- The one exchange is an alert that was not taken.
    refine ⟨?_, fun _ => rfl⟩
    rintro ⟨e, he, htaken⟩
    rw [List.mem_singleton.mp he, Exchange.isTaken, decide_eq_false hreply, Bool.and_false]
      at htaken
    cases htaken
  | taken hsend hflush hreply =>
    refine ⟨fun _ => rfl, fun hnone => absurd ⟨_, List.mem_cons_self, ?_⟩ hnone⟩
    rw [Exchange.isTaken, hsend, decide_eq_true hreply]
    rfl

/-- An alert that fails is not flushed, and its failure is what it ends with. -/
theorem of_send_fails (h : Emits s exchanges ending s') {e : Exchange} (he : e ∈ exchanges)
    (hsend : e.call.isSend = true) {f : Failure} (hf : e.reply.ending = .fails f) :
    ending = .returned (.error f) ∧ ∀ other ∈ exchanges, other.call.isFlush = false := by
  cases h with
  | refused _ _ =>
    rw [List.mem_singleton.mp he] at hsend hf
    refine ⟨by rw [hf]; rfl, fun other hother => ?_⟩
    rw [List.mem_singleton.mp hother]
    exact Call.isFlush_of_isSend hsend
  | taken _ hflush hreply =>
    -- The alert was taken, and the other call is a flush.
    rcases List.mem_pair.mp he with rfl | rfl
    · rw [hreply] at hf
      cases hf
    · rw [Call.isFlush_of_isSend hsend] at hflush
      cases hflush

/-- A flush that fails is what the alert ends with. -/
theorem of_flush_fails (h : Emits s exchanges ending s') {e : Exchange} (he : e ∈ exchanges)
    (hflush : e.call.isFlush = true) {f : Failure} (hf : e.reply.ending = .fails f) :
    ending = .returned (.error f) := by
  cases h with
  | refused hsend _ =>
    rw [List.mem_singleton.mp he, Call.isFlush_of_isSend hsend] at hflush
    cases hflush
  | taken hsend _ _ =>
    rcases List.mem_pair.mp he with rfl | rfl
    · rw [Call.isFlush_of_isSend hsend] at hflush
      cases hflush
    · rw [hf]
      rfl

end Emits

/-! ### What is left alone -/

/-- What no message changes: settings, clock and phase, and all counts but those of the new
identifiers and of the alerts. -/
structure LeavesAlone (w v : Watch) : Prop where
  /-- The watch is as far as it was, with the settings and the clock it had. -/
  keeps : w.Keeps v
  /-- Seven of its counts are as they were. -/
  counts : v.counts = { w.counts with
    ibanEvents := v.counts.ibanEvents, alertsRaised := v.counts.alertsRaised }

theorem leavesAlone_process (w : Watch) (m : Message) : w.LeavesAlone (w.process m).watch := by
  refine ⟨keeps_process w m, ?_⟩
  obtain ⟨events, alerts, hcounts, -⟩ := exists_counts_follow w m.reading
  rw [process_eq_follow, hcounts]

/-- **A row of requests leaves alone what no message changes**, whether its messages fail, unwind
or neither. -/
theorem leavesAlone_answers (w : Watch) (requests : List Request) :
    w.LeavesAlone (w.answers requests).2 := by
  induction requests generalizing w with
  | nil => exact ⟨⟨rfl, rfl, rfl⟩, rfl⟩
  | cons r rest ih =>
    have hfirst : w.LeavesAlone (w.answer r).watch := by
      cases r with
      | trigger => exact ⟨⟨rfl, rfl, rfl⟩, rfl⟩
      | message m => exact leavesAlone_process w m
    -- What each request leaves alone is left alone by all of them.
    have hlater := ih (w.answer r).watch
    rw [answers]
    refine ⟨⟨?_, ?_, ?_⟩, ?_⟩
    · exact hlater.keeps.settings.trans hfirst.keeps.settings
    · exact hlater.keeps.clock.trans hfirst.keeps.clock
    · exact hlater.keeps.phase.trans hfirst.keeps.phase
    · rw [hlater.counts, hfirst.counts]

/-! ### One message -/

/-- Everything that processing a message does to a watch. -/
structure Processes (w : Watch) (m : Message) (report : Report (Except Failure Verdict)) :
    Prop where
  /-- All but two counts of the watch is as it was. -/
  leavesAlone : w.LeavesAlone report.watch
  /-- The calls of the emitter all have their answers. -/
  paired : report.trace.Paired
  /-- A message that gives a user a new identifier is counted, wherever it ends. -/
  update : m.IsUpdate → report.watch.counts.ibanEvents = w.counts.ibanEvents + 1
  /-- No other message is. -/
  other : ¬ m.IsUpdate → report.watch.counts.ibanEvents = w.counts.ibanEvents
  /-- An alert that the emitter took is counted, whatever became of its flush. -/
  taken : (∃ e ∈ report.trace.exchanges, e.isTaken = true) →
    report.watch.counts.alertsRaised = w.counts.alertsRaised + 1
  /-- No other alert is. -/
  untaken : (¬ ∃ e ∈ report.trace.exchanges, e.isTaken = true) →
    report.watch.counts.alertsRaised = w.counts.alertsRaised
  /-- Without a payload nothing is done at all. -/
  bare : m.payload = none →
    report = ⟨.returned (.error (.decode "message has no payload")), w, []⟩
  /-- Nor is anything done if the payload cannot be understood. -/
  misread : ∀ payload misread, m.payload = some payload →
    AuditEvent.decode payload = .error misread →
      report = ⟨.returned (.error (.decode misread.message)), w, []⟩
  /-- The failure of an alert that is not taken is given back as it is, and nothing is flushed. -/
  refused : ∀ e ∈ report.trace.exchanges, e.call.isSend = true → ∀ f, e.reply.ending = .fails f →
    report.ending = .returned (.error f)
      ∧ ∀ other ∈ report.trace.exchanges, other.call.isFlush = false
  /-- The failure of a flush is given back as it is. -/
  unflushed : ∀ e ∈ report.trace.exchanges, e.call.isFlush = true →
    ∀ f, e.reply.ending = .fails f → report.ending = .returned (.error f)

theorem process_of_eventOf (w : Watch) {m : Message} {f : Failure} (h : eventOf m = .error f) :
    w.process m = ⟨.returned (.error f), w, []⟩ := by
  rw [process, h]

theorem eventOf_of_misread {m : Message} {payload : Bytes} {misread : Misread}
    (hp : m.payload = some payload) (hd : AuditEvent.decode payload = .error misread) :
    eventOf m = .error (.decode misread.message) := by
  simp only [eventOf, hp, hd]

/-- Where the emitter is not called, no alert is taken and none fails. -/
theorem processes_of_silent {w : Watch} {m : Message}
    (hemissions : (w.process m).trace.emissions = [])
    (hanswered : (w.process m).trace.answered = [])
    (halerts : (w.process m).watch.counts.alertsRaised = w.counts.alertsRaised)
    (hupdate : m.IsUpdate → (w.process m).watch.counts.ibanEvents = w.counts.ibanEvents + 1)
    (hother : ¬ m.IsUpdate → (w.process m).watch.counts.ibanEvents = w.counts.ibanEvents) :
    Processes w m (w.process m) := by
  have hexchanges : (w.process m).trace.exchanges = [] := by
    rw [Trace.exchanges, hemissions]
    rfl
  refine ⟨leavesAlone_process w m, ?_, hupdate, hother, ?_, fun _ => halerts, ?_, ?_, ?_, ?_⟩
  · rw [Trace.Paired, hemissions, hanswered]
    rfl
  · rintro ⟨e, he, -⟩
    rw [hexchanges] at he
    cases he
  · exact fun hp => process_of_eventOf w (by rw [eventOf, hp])
  · exact fun payload misread hp hd => process_of_eventOf w (eventOf_of_misread hp hd)
  · intro e he
    rw [hexchanges] at he
    cases he
  · intro e he
    rw [hexchanges] at he
    cases he

/-- A message that asks for an alert is counted first, and then its alert takes one of its two
courses. -/
theorem processes_of_suspect {w : Watch} {m : Message} {event : AuditEvent}
    {reason : Iban.Defect} (hr : m.reading = .suspect event reason) :
    Processes w m (w.process m) := by
  have hupdate : m.IsUpdate := Message.isUpdate_iff.mpr (.inr ⟨event, reason, hr⟩)
  have hpaired := (settles_follow w m).paired
  have hemits := emits_emit w.countEvent event
  rw [← process_eq_follow] at hpaired
  -- What the call gives back, holds and exchanges with the emitter is all told by its alert.
  obtain ⟨hending, hcounts, hexchanges⟩ :
      (w.process m).ending
          = (w.countEvent.emit event).ending.map (·.map fun _ => Verdict.alertRaised)
        ∧ (w.process m).watch.counts = (w.countEvent.emit event).watch.counts
        ∧ (w.process m).trace.exchanges = (w.countEvent.emit event).trace.exchanges := by
    rw [process_eq_follow, hr]
    exact ⟨rfl, rfl, rfl⟩
  have hfailed : ∀ f, (w.countEvent.emit event).ending = .returned (.error f) →
      (w.process m).ending = .returned (.error f) := by
    intro f hf
    rw [hending, hf]
    rfl
  refine ⟨leavesAlone_process w m, hpaired, fun _ => ?_, fun h => absurd hupdate h, ?_, ?_,
    fun hp => process_of_eventOf w (by rw [eventOf, hp]),
    fun payload misread hp hd => process_of_eventOf w (eventOf_of_misread hp hd), ?_, ?_⟩
  · rw [hcounts, hemits.ibanEvents]
    rfl
  · rw [hcounts, hexchanges]
    exact hemits.alertsRaised.1
  · rw [hcounts, hexchanges]
    exact hemits.alertsRaised.2
  · rw [hexchanges]
    intro e he hsend f hf
    obtain ⟨hend, hnoflush⟩ := hemits.of_send_fails he hsend hf
    exact ⟨hfailed f hend, hnoflush⟩
  · rw [hexchanges]
    exact fun e he hflush f hf => hfailed f (hemits.of_flush_fails he hflush hf)

/-- What one message does to a watch, wherever it ends. -/
theorem processes_process (w : Watch) (m : Message) : Processes w m (w.process m) := by
  have hupdate := Message.isUpdate_iff (m := m)
  cases hr : m.reading with
  | suspect event reason => exact processes_of_suspect hr
  | unread text =>
    -- Without an alert the emitter is not called, and the message gives no new identifier.
    have hnot : ¬ m.IsUpdate := by
      rw [hupdate, hr]
      rintro (⟨_, ⟨⟩⟩ | ⟨_, _, ⟨⟩⟩)
    refine processes_of_silent ?_ ?_ ?_ (fun h => absurd h hnot) fun _ => ?_ <;>
      rw [process_eq_follow, hr] <;> rfl
  | other event =>
    have hnot : ¬ m.IsUpdate := by
      rw [hupdate, hr]
      rintro (⟨_, ⟨⟩⟩ | ⟨_, _, ⟨⟩⟩)
    refine processes_of_silent ?_ ?_ ?_ (fun h => absurd h hnot) fun _ => ?_ <;>
      rw [process_eq_follow, hr] <;> rfl
  | valid event =>
    -- The identifier is new and counted, but it raises no alert.
    have his : m.IsUpdate := hupdate.mpr (.inl ⟨event, hr⟩)
    refine processes_of_silent ?_ ?_ ?_ (fun _ => ?_) (fun h => absurd his h) <;>
      rw [process_eq_follow, hr] <;> rfl

/-- **What one message does to a watch**, wherever it ends, and after whatever requests: earlier
messages may have failed or unwound, and no row of them changes more than the two counts. -/
theorem processes_after (w : Watch) (earlier : List Request) (m : Message) :
    w.LeavesAlone (w.answers earlier).2
      ∧ Processes (w.answers earlier).2 m ((w.answers earlier).2.process m) :=
  ⟨leavesAlone_answers w earlier, processes_process _ m⟩

end Watch

end IbanWatch
