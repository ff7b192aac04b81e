import IbanWatch.Detection.Run

/-!
# The handling of one outcome

Everything that a watch can do with what a poll brought, said once.  A message reads as one of four
things, and the reading alone decides what the watch does with it; an alert is either refused at
once or taken and then flushed.  Later proofs go by the reading and never unfold the steps.

## Main definitions

* `Message.reading` — what a message reads as, said without a watch.
* `Message.suspect?`, `Outcome.suspect?` — the event for which an alert is due.
* `Watch.follow` — what a watch does with a message of a given reading.
* `Watch.Keeps` — what no call into a watch changes.
* `Occurrence.isInner` — what may happen while an outcome is handled.
* `Trace.Quiet` — nothing is polled.

## Main results

* `process_eq_follow` — a message is processed by its reading.
* `keeps_handle` — settings, clock and phase stay as they are.
* `isInner_of_mem_handle` — while an outcome is handled nothing is polled and nothing released.
-/

namespace IbanWatch

open Text Shutdown

/-! ### What a message reads as -/

/-- What a message reads as. -/
inductive Reading where
  /-- It cannot be understood, for this reason. -/
  | unread (text : String)
  /-- It tells of an event of another kind. -/
  | other (event : AuditEvent)
  /-- It gives a user a new identifier, which is valid. -/
  | valid (event : AuditEvent)
  /-- It gives a user a new identifier, which has a defect. -/
  | suspect (event : AuditEvent) (reason : Iban.Defect)

/-- What an event reads as. -/
def AuditEvent.reading (event : AuditEvent) : Reading :=
  if event.eventType = ibanUpdated then
    match Iban.check event.newIban with
    | .ok _ => .valid event
    | .error reason => .suspect event reason
  else .other event

/-- What a message reads as. -/
def Message.reading (m : Message) : Reading :=
  match m.payload.map AuditEvent.decode with
  | none => .unread "message has no payload"
  | some (.error misread) => .unread misread.message
  | some (.ok event) => event.reading

/-- The event for which a message has to raise an alert: one that can be understood, gives a user a
new identifier, and fails the check. -/
def Message.suspect? (m : Message) : Option AuditEvent :=
  match m.reading with
  | .suspect event _ => some event
  | .unread _ | .other _ | .valid _ => none

/-- The event for which the outcome of a poll has to raise an alert. -/
def Outcome.suspect? : Outcome → Option AuditEvent
  | .message m => m.suspect?
  | .idle | .partitionEnd | .failure _ => none

/-- Which messages ask for an alert, in full. -/
theorem Message.suspect?_eq_some_iff {m : Message} {event : AuditEvent} :
    m.suspect? = some event ↔
      (∃ payload, m.payload = some payload ∧ AuditEvent.decode payload = .ok event)
        ∧ event.eventType = ibanUpdated ∧ ∃ reason, Iban.check event.newIban = .error reason := by
  constructor
  · intro h
    -- Forwards the matches of the reading are opened one by one, and only the way to a defect is
    -- left.
    rw [Message.suspect?, Message.reading] at h
    cases hp : m.payload with
    | none => rw [hp] at h; cases h
    | some payload =>
      rw [hp, Option.map_some] at h
      cases hd : AuditEvent.decode payload with
      | error misread => rw [hd] at h; cases h
      | ok found =>
        rw [hd] at h
        simp only [AuditEvent.reading] at h
        by_cases hk : found.eventType = ibanUpdated
        · rw [if_pos hk] at h
          cases hc : Iban.check found.newIban with
          | ok u => rw [hc] at h; cases h
          | error reason =>
            rw [hc] at h
            cases h
            exact ⟨⟨payload, rfl, hd⟩, hk, reason, hc⟩
        · rw [if_neg hk] at h; cases h
  · -- Conversely each condition decides one match of the reading.
    rintro ⟨⟨payload, hp, hd⟩, hk, reason, hc⟩
    simp only [Message.suspect?, Message.reading, hp, Option.map_some, hd, AuditEvent.reading,
      if_pos hk, hc]

/-- Whether a message cannot be understood. -/
def Message.isUnread (m : Message) : Bool :=
  match m.reading with
  | .unread _ => true
  | .other _ | .valid _ | .suspect _ _ => false

/-- Which messages cannot be understood, in full: deletion markers, and those whose payload is
refused. -/
theorem Message.isUnread_iff {m : Message} :
    m.isUnread = true ↔ m.payload = none
      ∨ ∃ payload misread, m.payload = some payload
        ∧ AuditEvent.decode payload = .error misread := by
  rw [Message.isUnread, Message.reading]
  cases hp : m.payload with
  | none => simp
  | some payload =>
    rw [Option.map_some]
    cases hd : AuditEvent.decode payload with
    | error misread => simp [hd]
    | ok event =>
      -- A payload that decodes reads as one of the other three, whatever the check finds.
      simp only [AuditEvent.reading]
      by_cases hk : event.eventType = ibanUpdated
      · rw [if_pos hk]
        cases Iban.check event.newIban <;> simp [hd]
      · rw [if_neg hk]
        simp [hd]

namespace Watch

/-! ### What a watch does with it -/

/-- What a watch does with a message of this reading. -/
def follow (w : Watch) : Reading → Report (Except Failure Verdict)
  | .unread text => ⟨.returned (.error (.decode text)), w, []⟩
  | .other event => ⟨.returned (.ok .ignored), w, [.log (.received event)]⟩
  | .valid event =>
    ⟨.returned (.ok .validIban), w.countEvent, [.log (.received event), .log (.safe event)]⟩
  | .suspect event reason =>
    let report := w.countEvent.emit event
    ⟨report.ending.map (·.map fun _ => .alertRaised), report.watch,
      .log (.received event) :: .log (.suspicious event reason) :: report.trace⟩

theorem inspect_eq_follow (w : Watch) (event : AuditEvent) :
    { w.inspect event with trace := .log (.received event) :: (w.inspect event).trace }
      = w.follow event.reading := by
  rw [inspect, AuditEvent.isIbanUpdate, AuditEvent.reading]
  by_cases hk : event.eventType = ibanUpdated
  · rw [if_pos (decide_eq_true hk), if_pos hk]
    cases hc : Iban.check event.newIban with
    | ok u => rfl
    | error reason => rfl
  · rw [if_neg (by simpa using hk), if_neg hk]
    rfl

/-- **A message is processed by its reading.** -/
theorem process_eq_follow (w : Watch) (m : Message) : w.process m = w.follow m.reading := by
  rw [process, eventOf, Message.reading]
  cases m.payload with
  | none => rfl
  | some payload =>
    rw [Option.map_some]
    cases hd : AuditEvent.decode payload with
    | error misread => simp only [hd, follow]
    | ok event => simpa only [hd] using w.inspect_eq_follow event

/-! ### Alerts -/

/-- The emitter's answer to the next alert. -/
def sendReply (w : Watch) : EmitterReply := w.emitter.takeSend.1

/-- The emitter's answer to the next flush. -/
def flushReply (w : Watch) : EmitterReply := w.emitter.takeFlush.1

theorem send_eq (w : Watch) (event : AuditEvent) :
    w.send event = ⟨w.sendReply.ending.ending,
      { w.answered w.sendReply w.emitter.takeSend.2 with readings := w.readings + 1 },
      [.call (w.sendCall (w.alertFor event)), .answered w.sendReply]⟩ := rfl

theorem flush_eq (w : Watch) :
    w.flush = ⟨w.flushReply.ending.ending, w.answered w.flushReply w.emitter.takeFlush.2,
      [.call (.flush w.settings.flushTimeout), .answered w.flushReply]⟩ := rfl

/-- An alert that the emitter does not take is not flushed. -/
theorem emit_of_not_taken {w : Watch} (event : AuditEvent) (h : w.sendReply.ending ≠ .succeeds) :
    w.emit event = w.send event := by
  rw [emit]
  cases he : w.sendReply.ending with
  | succeeds => exact absurd he h
  | fails f => simp [send_eq, he, CallEnd.ending]
  | unwinds => simp [send_eq, he, CallEnd.ending]

/-- An alert that the emitter takes is counted and flushed at once. -/
theorem emit_of_taken {w : Watch} (event : AuditEvent) (h : w.sendReply.ending = .succeeds) :
    w.emit event = ⟨(w.send event).watch.countAlert.flush.ending,
      (w.send event).watch.countAlert.flush.watch,
      (w.send event).trace ++ (w.send event).watch.countAlert.flush.trace⟩ := by
  rw [emit]
  simp [send_eq, h, CallEnd.ending]

/-! ### What stays as it is -/

/-- What no call into a watch changes. -/
structure Keeps (w v : Watch) : Prop where
  /-- It is told the same. -/
  settings : v.settings = w.settings
  /-- It has the same clock. -/
  clock : v.clock = w.clock
  /-- It is as far as it was. -/
  phase : v.phase = w.phase

theorem keeps_emit (w : Watch) (event : AuditEvent) : w.Keeps (w.emit event).watch := by
  by_cases h : w.sendReply.ending = .succeeds
  · rw [emit_of_taken event h]
    exact ⟨rfl, rfl, rfl⟩
  · rw [emit_of_not_taken event h]
    exact ⟨rfl, rfl, rfl⟩

theorem keeps_process (w : Watch) (m : Message) : w.Keeps (w.process m).watch := by
  rw [process_eq_follow]
  cases m.reading with
  | unread text => exact ⟨rfl, rfl, rfl⟩
  | other event => exact ⟨rfl, rfl, rfl⟩
  | valid event => exact ⟨rfl, rfl, rfl⟩
  | suspect event reason =>
    obtain ⟨hs, hc, hp⟩ := keeps_emit w.countEvent event
    exact ⟨hs, hc, hp⟩

/-- How a message is handled: by its reading, and what came of it is counted and told unless the
call unwinds. -/
theorem handle_message (w : Watch) (m : Message) :
    w.handle (.message m) =
      match (w.countMessage.follow m.reading).ending with
      | .unwound => ⟨.unwound, (w.countMessage.follow m.reading).watch,
          (w.countMessage.follow m.reading).trace⟩
      | .returned result =>
        ⟨.returned (), { (w.countMessage.follow m.reading).watch with
            counts := (w.countMessage.follow m.reading).watch.counts.record result },
          (w.countMessage.follow m.reading).trace ++ failureLines m result⟩ := by
  rw [← process_eq_follow]
  rfl

/-- **Handling an outcome changes neither settings nor clock nor phase.** -/
theorem keeps_handle (w : Watch) (o : Outcome) : w.Keeps (w.handle o).watch := by
  cases o with
  | idle => exact ⟨rfl, rfl, rfl⟩
  | partitionEnd => exact ⟨rfl, rfl, rfl⟩
  | failure f => exact ⟨rfl, rfl, rfl⟩
  | message m =>
    -- Counting the message and its result moves nothing but the counts.
    have h := keeps_process w.countMessage m
    rw [process_eq_follow] at h
    rw [handle_message]
    cases (w.countMessage.follow m.reading).ending with
    | unwound => exact ⟨h.settings, h.clock, h.phase⟩
    | returned result => exact ⟨h.settings, h.clock, h.phase⟩

end Watch

/-! ### What happens meanwhile -/

/-- What may happen while an outcome is handled: the emitter is called and answers, and lines are
logged, but none that tells of the beginning or the end of the run. -/
def Occurrence.isInner : Occurrence → Bool
  | .call (.send _ _ _) | .call (.flush _) | .answered _ => true
  | .call (.poll _) | .call .close | .polled _ _ | .counted _ => false
  | .log (.running _) | .log .stopping | .log (.stopped _) => false
  | .log _ => true

/-- Whether the occurrence is part of a poll. -/
def Occurrence.isPoll : Occurrence → Bool
  | .call (.poll _) | .polled _ _ => true
  | .call (.send _ _ _) | .call (.flush _) | .call .close => false
  | .answered _ | .counted _ | .log _ => false

/-- Nothing is polled in the row. -/
def Trace.Quiet (t : Trace) : Prop := ∀ x ∈ t, x.isPoll = false

theorem isPoll_of_isInner {x : Occurrence} (h : x.isInner = true) : x.isPoll = false := by
  cases x with
  | call c => cases c <;> first | rfl | cases h
  | polled reply seen => cases h
  | answered reply => rfl
  | counted refused => rfl
  | log l => rfl

namespace Watch

theorem isInner_of_mem_emit {w : Watch} {event : AuditEvent} :
    ∀ x ∈ (w.emit event).trace, x.isInner = true := by
  intro x hx
  -- An alert leaves two occurrences, and two more of its flush if it was taken.
  by_cases h : w.sendReply.ending = .succeeds
  · rw [emit_of_taken event h] at hx
    simp only [send_eq, flush_eq, List.cons_append, List.nil_append, List.mem_cons,
      List.not_mem_nil, or_false] at hx
    rcases hx with rfl | rfl | rfl | rfl <;> rfl
  · rw [emit_of_not_taken event h] at hx
    simp only [send_eq, List.mem_cons, List.not_mem_nil, or_false] at hx
    rcases hx with rfl | rfl <;> rfl

theorem isInner_of_mem_follow {w : Watch} {r : Reading} :
    ∀ x ∈ (w.follow r).trace, x.isInner = true := by
  cases r with
  | unread text => simp [follow]
  | other event => simp [follow, Occurrence.isInner]
  | valid event => simp [follow, Occurrence.isInner]
  | suspect event reason =>
    simp only [follow, List.forall_mem_cons]
    exact ⟨rfl, rfl, isInner_of_mem_emit⟩

/-- **While an outcome is handled nothing is polled and nothing released.** -/
theorem isInner_of_mem_handle {w : Watch} {o : Outcome} :
    ∀ x ∈ (w.handle o).trace, x.isInner = true := by
  cases o with
  | idle => simp [handle]
  | partitionEnd => simp [handle, Occurrence.isInner]
  | failure f => simp [handle, Occurrence.isInner]
  | message m =>
    have h := isInner_of_mem_follow (w := w.countMessage) (r := m.reading)
    rw [handle_message]
    cases (w.countMessage.follow m.reading).ending with
    | unwound => exact h
    | returned result =>
      -- Behind what the reading leaves there is at most the line about a failure.
      intro x hx
      rcases List.mem_append.mp hx with hx | hx
      · exact h x hx
      · cases result with
        | ok verdict => cases hx
        | error f =>
          rw [List.mem_singleton.mp hx]
          rfl

theorem quiet_handle (w : Watch) (o : Outcome) : (w.handle o).trace.Quiet :=
  fun x hx => isPoll_of_isInner (isInner_of_mem_handle x hx)

end Watch

end IbanWatch
