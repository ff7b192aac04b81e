import IbanWatch.Proofs.Watch.Cancellation
import IbanWatch.Proofs.Watch.Exchanges

/-!
# The counts balance

Nine counts are kept in several places, some for a run only and some also for messages that are
handed in from outside.  Here each is compared with what happened: with the outcomes that the polls
brought, and with the calls of the emitter and its answers.  The invariant is carried along every
call into a watch: what is counted for a message is in one count, or its alert was flushed well, or
a call of the emitter unwound before anything could be counted.

## Main definitions

* `Message.isOther`, `Message.isValid` — what the messages that ask for no alert read as.
* `Trace.messages` — the messages that the polls brought.
* `Stats.settled` — the messages with a count of their own.
* `Watch.Settles`, `Watch.Tallies` — how far the counts went up, in any call and in a run.
* `Watch.Balanced` — the counts at the end of a session, told by what happened.

## Main results

* `settles_follow`, `tallies_handle` — a message is settled, and an outcome is tallied.
* `along_turns` — what holds of each outcome that is handled holds along all turns.
* `settles_answers`, `tallies_run` — requests are settled, and a run is tallied.
* `balanced_session` — **the counts of every session that ends balance.**
-/

namespace IbanWatch

open Text Time Shutdown

/-! ### Messages -/

namespace Message

/-- Whether a message tells of an event of another kind. -/
def isOther (m : Message) : Bool :=
  match m.reading with
  | .other _ => true
  | .unread _ | .valid _ | .suspect _ _ => false

/-- Whether a message gives a user a new identifier that is valid. -/
def isValid (m : Message) : Bool :=
  match m.reading with
  | .valid _ => true
  | .unread _ | .other _ | .suspect _ _ => false

/-- A message cannot be understood, or its payload is an event and it reads as that. -/
theorem reading_cases (m : Message) : (∃ text, m.reading = .unread text)
    ∨ ∃ payload event, m.payload = some payload ∧ AuditEvent.decode payload = .ok event
      ∧ m.reading = event.reading := by
  cases hp : m.payload with
  | none => exact .inl ⟨_, by rw [reading, hp]; rfl⟩
  | some payload =>
    cases hd : AuditEvent.decode payload with
    | error misread => exact .inl ⟨_, by rw [reading, hp, Option.map_some, hd]⟩
    | ok event => exact .inr ⟨payload, event, rfl, hd, by rw [reading, hp, Option.map_some, hd]⟩

theorem reading_of_decode {m : Message} {payload : Bytes} {event : AuditEvent}
    (hp : m.payload = some payload) (hd : AuditEvent.decode payload = .ok event) :
    m.reading = event.reading := by
  rw [reading, hp, Option.map_some, hd]

/-- Which messages give a user a new identifier that is valid, in full. -/
theorem isValid_iff {m : Message} : m.isValid = true ↔ ∃ payload event, m.payload = some payload
    ∧ AuditEvent.decode payload = .ok event ∧ event.eventType = ibanUpdated
    ∧ ∃ u, Iban.check event.newIban = .ok u := by
  constructor
  · intro h
    rcases m.reading_cases with ⟨text, hr⟩ | ⟨payload, event, hp, hd, hr⟩
    · rw [isValid, hr] at h
      cases h
    · rw [isValid, hr, AuditEvent.reading] at h
      -- The kind of the event and the check decide the rest.
      by_cases hk : event.eventType = ibanUpdated
      · rw [if_pos hk] at h
        cases hc : Iban.check event.newIban with
        | ok u => exact ⟨payload, event, hp, hd, hk, u, hc⟩
        | error reason => simp [hc] at h
      · rw [if_neg hk] at h
        cases h
  · rintro ⟨payload, event, hp, hd, hk, u, hc⟩
    simp only [isValid, reading_of_decode hp hd, AuditEvent.reading, if_pos hk, hc]

end Message

/-- The message that a poll brought. -/
def Outcome.message? : Outcome → Option Message
  | .message m => some m
  | .idle | .partitionEnd | .failure _ => none

/-- Whether the stream failed. -/
def Outcome.isFailure : Outcome → Bool
  | .failure _ => true
  | .idle | .partitionEnd | .message _ => false

/-- The messages that the polls brought. -/
def Trace.messages (t : Trace) : List Message := t.outcomes.filterMap Outcome.message?

/-- The messages that have a count of their own. -/
def Stats.settled (s : Stats) : Nat :=
  s.ignoredEvents + s.validIbans + s.decodeFailures + s.deliveryFailures

namespace Watch

/-- The message that is handed in by a request. -/
def Request.message? : Request → Option Message
  | .message m => some m
  | .trigger => none

end Watch

/-! ### Along the turns -/

namespace Watch

section Along

variable {R : Watch → List Outcome → Trace → Watch → Prop}

/-- What holds of a poll that brings nothing and of each outcome that is handled holds of a turn. -/
theorem along_turn
    (quiet : ∀ {w v : Watch} {t : Trace}, v.counts = w.counts → v.emitter = w.emitter →
      t.emissions = [] → t.answered = [] → t.lines = [] → R w [] t v)
    (handle : ∀ w o, R w [o] (w.handle o).trace (w.handle o).watch)
    (trans : ∀ {u v w : Watch} {os ps : List Outcome} {t s : Trace}, R u os t v → R v ps s w →
      R u (os ++ ps) (t ++ s) w)
    (w : Watch) (reply : PollReply) :
    R w (w.turn reply).trace.outcomes (w.turn reply).trace (w.turn reply).watch := by
  have hc := w.turn_course reply
  have hpolled : R w [] (w.pollTrace reply) (w.polled reply) := quiet rfl rfl rfl rfl rfl
  -- A poll is quiet, so a turn comes down to the outcome that is handled in it.
  have hhandle : ∀ o, (reply.poll w.signal).1 = .completed o →
      R w (Trace.outcomes (w.pollTrace reply ++ ((w.polled reply).handle o).trace))
        (w.pollTrace reply ++ ((w.polled reply).handle o).trace)
        ((w.polled reply).handle o).watch := by
    intro o hs
    rw [outcomes_pollTrace_append hs]
    exact trans hpolled (handle (w.polled reply) o)
  generalize w.turn reply = turn at hc ⊢
  cases hc with
  | closed => exact quiet rfl rfl rfl rfl rfl
  | asked => exact quiet rfl rfl rfl rfl rfl
  | abandoned _ _ hs =>
    rw [outcomes_pollTrace (by rw [hs]; exact nofun)]
    exact quiet rfl rfl rfl rfl rfl
  | unwound _ _ hs =>
    rw [outcomes_pollTrace (by rw [hs]; exact nofun)]
    exact hpolled
  | handled _ _ hs => exact hhandle _ hs
  | broken _ _ hs => exact hhandle _ hs

/-- **What holds of each outcome that is handled holds along all turns**, if it holds where nothing
is handled and goes on from one outcome to the next. -/
theorem along_turns
    (quiet : ∀ {w v : Watch} {t : Trace}, v.counts = w.counts → v.emitter = w.emitter →
      t.emissions = [] → t.answered = [] → t.lines = [] → R w [] t v)
    (handle : ∀ w o, R w [o] (w.handle o).trace (w.handle o).watch)
    (trans : ∀ {u v w : Watch} {os ps : List Outcome} {t s : Trace}, R u os t v → R v ps s w →
      R u (os ++ ps) (t ++ s) w)
    (w : Watch) (script : List PollReply) :
    R w (w.turns script).trace.outcomes (w.turns script).trace (w.turns script).watch :=
  turns_induct (motive := fun w _ t => R w t.trace.outcomes t.trace t.watch)
    (fun w reply _ _ => along_turn quiet handle trans w reply)
    (fun w reply later rest _ ih => by
      rw [Trace.outcomes_append]
      exact trans (along_turn quiet handle trans w reply) ih)
    w script

end Along

/-! ### What every call settles -/

/-- From `w` to `v` these messages were processed and this happened, and the counts that are kept in
every call went up as it tells. -/
structure Settles (w : Watch) (messages : List Message) (t : Trace) (v : Watch) : Prop where
  /-- Every call of the emitter was answered. -/
  paired : t.Paired
  /-- The new identifiers: the valid ones, and those for which an alert was handed over. -/
  events : v.counts.ibanEvents
    = w.counts.ibanEvents + messages.countP Message.isValid + t.sends.length
  /-- The alerts that were taken. -/
  alerts : v.counts.alertsRaised = w.counts.alertsRaised + t.exchanges.countP Exchange.isTaken
  /-- The alerts that the emitter learned to have been refused. -/
  rejected : v.emitter.rejected = w.emitter.rejected + t.rejected

/-- What is settled, and what is settled after it, is all settled. -/
theorem Settles.trans {u v w : Watch} {ms ns : List Message} {t s : Trace}
    (h₁ : u.Settles ms t v) (h₂ : v.Settles ns s w) : u.Settles (ms ++ ns) (t ++ s) w where
  paired := h₁.paired.append h₂.paired
  events := by
    rw [h₂.events, h₁.events, List.countP_append, Trace.sends_append, List.length_append]
    omega
  alerts := by
    -- Calls and answers can be paired part by part, since none is left open in between.
    rw [h₂.alerts, h₁.alerts, Trace.exchanges_append h₁.paired, List.countP_append]
    omega
  rejected := by rw [h₂.rejected, h₁.rejected, Trace.rejected_append, UInt64.add_assoc]

theorem Settles.of_silent {w v : Watch} {ms : List Message} {t : Trace}
    (hemissions : t.emissions = []) (hanswered : t.answered = []) (he : v.emitter = w.emitter)
    (ha : v.counts.alertsRaised = w.counts.alertsRaised)
    (hi : v.counts.ibanEvents = w.counts.ibanEvents + ms.countP Message.isValid) :
    w.Settles ms t v := by
  refine ⟨?_, ?_, ?_, ?_⟩
  · rw [Trace.Paired, hemissions, hanswered]
    rfl
  · rw [hi, Trace.sends_eq_filter_emissions, hemissions]
    rfl
  · rw [ha, Trace.exchanges, hemissions]
    rfl
  · rw [he, Trace.rejected, hanswered]
    exact (UInt64.add_zero _).symm

theorem rejected_learn (e : Emitter) (reply : EmitterReply) :
    (e.learn reply).rejected = e.rejected + reply.learned := by
  rw [Emitter.learn, EmitterReply.learned]
  cases reply.ending with
  | succeeds => rfl
  | fails f => rfl
  | unwinds => exact (UInt64.add_zero _).symm

theorem rejected_takeSend (e : Emitter) :
    e.takeSend.2.rejected = e.rejected + e.takeSend.1.learned := rejected_learn _ _

theorem rejected_takeFlush (e : Emitter) :
    e.takeFlush.2.rejected = e.rejected + e.takeFlush.1.learned := rejected_learn _ _

/-- An alert is settled, whether it is taken and flushed or not. -/
theorem settles_suspect (w : Watch) {m : Message} {event : AuditEvent} {reason : Iban.Defect}
    (hr : m.reading = .suspect event reason) :
    w.Settles [m] (w.follow m.reading).trace (w.follow m.reading).watch := by
  have hvalid : [m].countP Message.isValid = 0 := by
    rw [List.countP_singleton, Message.isValid, hr]
    rfl
  rw [hr]
  -- Taken: one alert more, and the emitter learns from the answers to it and to its flush.
  by_cases h : w.countEvent.sendReply.ending = .succeeds
  · simp only [follow, emit_of_taken event h]
    refine ⟨rfl, ?_, ?_, ?_⟩
    · rw [hvalid]
      rfl
    · have htaken : Exchange.isTaken
          ⟨w.countEvent.sendCall (w.countEvent.alertFor event), w.countEvent.sendReply⟩ = true :=
        decide_eq_true h
      show w.counts.alertsRaised + 1 = w.counts.alertsRaised + List.countP Exchange.isTaken
        [⟨w.countEvent.sendCall (w.countEvent.alertFor event), w.countEvent.sendReply⟩, ⟨_, _⟩]
      rw [List.countP_cons_of_pos htaken]
      rfl
    · show (w.emitter.takeSend.2.takeFlush.2).rejected = w.emitter.rejected
        + (w.emitter.takeSend.1.learned + (w.emitter.takeSend.2.takeFlush.1.learned + 0))
      rw [rejected_takeFlush, rejected_takeSend, UInt64.add_zero, UInt64.add_assoc]
  · simp only [follow, emit_of_not_taken event h]
    -- Not taken: nothing is counted, but the emitter learns from its answer all the same.
    refine ⟨rfl, ?_, ?_, ?_⟩
    · rw [hvalid]
      rfl
    · show w.counts.alertsRaised = w.counts.alertsRaised + List.countP Exchange.isTaken
        [⟨w.countEvent.sendCall (w.countEvent.alertFor event), w.countEvent.sendReply⟩]
      rw [List.countP_singleton, Exchange.isTaken, decide_eq_false h, Bool.and_false]
      rfl
    · show w.emitter.takeSend.2.rejected
        = w.emitter.rejected + (w.emitter.takeSend.1.learned + 0)
      rw [rejected_takeSend, UInt64.add_zero]

theorem settles_follow (w : Watch) (m : Message) :
    w.Settles [m] (w.follow m.reading).trace (w.follow m.reading).watch := by
  have hvalid : ∀ b, m.isValid = b → [m].countP Message.isValid = b.toNat := by
    intro b hb
    rw [List.countP_singleton, hb]
    cases b <;> rfl
  -- Only an alert calls the emitter.
  cases hr : m.reading with
  | suspect event reason =>
    rw [← hr]
    exact settles_suspect w hr
  | unread text =>
    refine .of_silent rfl rfl rfl rfl ?_
    rw [hvalid false (by rw [Message.isValid, hr])]
    rfl
  | other event =>
    refine .of_silent rfl rfl rfl rfl ?_
    rw [hvalid false (by rw [Message.isValid, hr])]
    rfl
  | valid event =>
    refine .of_silent rfl rfl rfl rfl ?_
    rw [hvalid true (by rw [Message.isValid, hr])]
    rfl

/-! ### What a run tallies -/

theorem failureLines_silent (m : Message) (result : Except Failure Verdict) :
    Trace.emissions (failureLines m result) = [] ∧ Trace.answered (failureLines m result) = [] := by
  cases result <;> exact ⟨rfl, rfl⟩

theorem append_failureLines (t : Trace) (m : Message) (result : Except Failure Verdict) :
    Trace.exchanges (t ++ failureLines m result) = t.exchanges
      ∧ Trace.answered (t ++ failureLines m result) = t.answered := by
  obtain ⟨hemissions, hanswered⟩ := failureLines_silent m result
  constructor
  · rw [Trace.exchanges, Trace.emissions_append, Trace.answered_append, hemissions, hanswered,
      List.append_nil, List.append_nil]
    rfl
  · rw [Trace.answered_append, hanswered, List.append_nil]

/-- What recording a result does to the counts: it goes to one of four, unless an alert was
raised. -/
structure Records (s : Stats) (result : Except Failure Verdict) (s' : Stats) : Prop where
  /-- It is told apart from the messages, the events, the alerts and the failures of the stream. -/
  others : s'.messages = s.messages ∧ s'.ibanEvents = s.ibanEvents
    ∧ s'.alertsRaised = s.alertsRaised ∧ s'.transportErrors = s.transportErrors
  ignored : s'.ignoredEvents
    = s.ignoredEvents + (decide (result.toOption = some .ignored)).toNat
  valid : s'.validIbans = s.validIbans + (decide (result.toOption = some .validIban)).toNat
  settled : s'.settled + (decide (result.toOption = some .alertRaised)).toNat = s.settled + 1

theorem records_record (s : Stats) (result : Except Failure Verdict) :
    Records s result (s.record result) := by
  cases result with
  | ok verdict =>
    cases verdict with
    | ignored =>
      refine ⟨⟨rfl, rfl, rfl, rfl⟩, rfl, rfl, ?_⟩
      show s.ignoredEvents + 1 + s.validIbans + s.decodeFailures + s.deliveryFailures
        = s.ignoredEvents + s.validIbans + s.decodeFailures + s.deliveryFailures + 1
      omega
    | validIban =>
      refine ⟨⟨rfl, rfl, rfl, rfl⟩, rfl, rfl, ?_⟩
      show s.ignoredEvents + (s.validIbans + 1) + s.decodeFailures + s.deliveryFailures
        = s.ignoredEvents + s.validIbans + s.decodeFailures + s.deliveryFailures + 1
      omega
    | alertRaised => exact ⟨⟨rfl, rfl, rfl, rfl⟩, rfl, rfl, rfl⟩
  | error f =>
    -- A failure to decode and one of transport go to the same count.
    have hdecode : ∀ s : Stats, Stats.settled { s with decodeFailures := s.decodeFailures + 1 }
        = s.settled + 1 := by
      intro s
      show s.ignoredEvents + s.validIbans + (s.decodeFailures + 1) + s.deliveryFailures
        = s.ignoredEvents + s.validIbans + s.decodeFailures + s.deliveryFailures + 1
      omega
    cases f with
    | delivery problem => exact ⟨⟨rfl, rfl, rfl, rfl⟩, rfl, rfl, rfl⟩
    | transport text => exact ⟨⟨rfl, rfl, rfl, rfl⟩, rfl, rfl, hdecode s⟩
    | decode text => exact ⟨⟨rfl, rfl, rfl, rfl⟩, rfl, rfl, hdecode s⟩

/-- **What is settled for a message is settled when it is handled.** -/
theorem settles_handle (w : Watch) (o : Outcome) :
    w.Settles o.message?.toList (w.handle o).trace (w.handle o).watch := by
  cases o with
  | idle => exact .of_silent rfl rfl rfl rfl rfl
  | partitionEnd => exact .of_silent rfl rfl rfl rfl rfl
  | failure f => exact .of_silent rfl rfl rfl rfl rfl
  | message m =>
    obtain ⟨hpaired, hevents, halerts, hrejected⟩ := settles_follow w.countMessage m
    rw [handle_message]
    cases (w.countMessage.follow m.reading).ending with
    | unwound => exact ⟨hpaired, hevents, halerts, hrejected⟩
    | returned result =>
      -- Recording the result changes none of the counts that every call keeps.
      have hfollow : w.Settles [m] (w.countMessage.follow m.reading).trace
          (w.countMessage.follow m.reading).watch := ⟨hpaired, hevents, halerts, hrejected⟩
      obtain ⟨hemissions, hanswered⟩ := failureLines_silent m result
      obtain ⟨-, hi, ha, -⟩ :=
        (records_record (w.countMessage.follow m.reading).watch.counts result).others
      exact hfollow.trans (.of_silent hemissions hanswered rfl ha hi)

/-- From `w` to `v` these outcomes were handled and this happened, and the counts went up as it
tells. -/
structure Tallies (w : Watch) (outcomes : List Outcome) (t : Trace) (v : Watch) : Prop where
  /-- What every call settles. -/
  settles : w.Settles (outcomes.filterMap Outcome.message?) t v
  /-- The messages. -/
  messages : v.counts.messages
    = w.counts.messages + (outcomes.filterMap Outcome.message?).length
  /-- The failures of the stream. -/
  failures : v.counts.transportErrors
    = w.counts.transportErrors + outcomes.countP Outcome.isFailure
  /-- The messages with an event of another kind. -/
  ignored : v.counts.ignoredEvents
    = w.counts.ignoredEvents + (outcomes.filterMap Outcome.message?).countP Message.isOther
  /-- The messages with a valid identifier. -/
  valid : v.counts.validIbans
    = w.counts.validIbans + (outcomes.filterMap Outcome.message?).countP Message.isValid
  /-- A message has a count of its own, or its alert was flushed, or a call unwound before it could
  be counted. -/
  balance : v.counts.messages + w.counts.settled = w.counts.messages + v.counts.settled
    + t.exchanges.countP Exchange.isFlushed + t.answered.countP EmitterReply.unwinds

/-- What is tallied, and what is tallied after it, is all tallied. -/
theorem Tallies.trans {u v w : Watch} {os ps : List Outcome} {t s : Trace}
    (h₁ : u.Tallies os t v) (h₂ : v.Tallies ps s w) : u.Tallies (os ++ ps) (t ++ s) w where
  settles := by
    rw [List.filterMap_append]
    exact h₁.settles.trans h₂.settles
  messages := by
    rw [h₂.messages, h₁.messages, List.filterMap_append, List.length_append]
    omega
  failures := by
    rw [h₂.failures, h₁.failures, List.countP_append]
    omega
  ignored := by
    rw [h₂.ignored, h₁.ignored, List.filterMap_append, List.countP_append]
    omega
  valid := by
    rw [h₂.valid, h₁.valid, List.filterMap_append, List.countP_append]
    omega
  balance := by
    -- The balance of both parts adds up, as their exchanges and answers do.
    have hb₁ := h₁.balance
    have hb₂ := h₂.balance
    rw [Trace.exchanges_append h₁.settles.paired, Trace.answered_append, List.countP_append,
      List.countP_append]
    omega

theorem Tallies.nil {w v : Watch} {t : Trace} (hc : v.counts = w.counts)
    (he : v.emitter = w.emitter) (hemissions : t.emissions = []) (hanswered : t.answered = []) :
    w.Tallies [] t v := by
  have hsettles : w.Settles [] t v :=
    .of_silent hemissions hanswered he (congrArg _ hc) (congrArg _ hc)
  refine ⟨hsettles, congrArg _ hc, congrArg _ hc, congrArg _ hc, congrArg _ hc, ?_⟩
  rw [hc, Trace.exchanges, hemissions, hanswered]
  rfl

theorem countP_single {p : Message → Bool} (m : Message) : [m].countP p = (p m).toNat := by
  rw [List.countP_singleton]
  cases p m <;> rfl

/-- While a message is followed only events and alerts are counted, each once at most. -/
theorem exists_counts_follow (w : Watch) (r : Reading) : ∃ events alerts,
    (w.follow r).watch.counts = { w.counts with ibanEvents := events, alertsRaised := alerts }
      ∧ events ≤ w.counts.ibanEvents + 1 ∧ alerts ≤ w.counts.alertsRaised + 1 := by
  cases r with
  | unread text => exact ⟨_, _, rfl, Nat.le_succ _, Nat.le_succ _⟩
  | other event => exact ⟨_, _, rfl, Nat.le_succ _, Nat.le_succ _⟩
  | valid event => exact ⟨_, _, rfl, Nat.le_refl _, Nat.le_succ _⟩
  | suspect event reason =>
    rw [follow]
    by_cases h : w.countEvent.sendReply.ending = .succeeds
    · rw [emit_of_taken event h]
      exact ⟨_, _, rfl, Nat.le_refl _, Nat.le_refl _⟩
    · rw [emit_of_not_taken event h]
      exact ⟨_, _, rfl, Nat.le_refl _, Nat.le_succ _⟩

/-- A message that is handled to its end is tallied by its result. -/
theorem tallies_of_returned {w : Watch} {m : Message} {r : Reading}
    {result : Except Failure Verdict} (hr : m.reading = r)
    (hend : (w.countMessage.follow r).ending = .returned result)
    (hother : m.isOther = decide (result.toOption = some .ignored))
    (hvalid : m.isValid = decide (result.toOption = some .validIban))
    (hflushed : (w.countMessage.follow r).trace.exchanges.countP Exchange.isFlushed
      = (decide (result.toOption = some .alertRaised)).toNat)
    (hunwinds : (w.countMessage.follow r).trace.answered.countP EmitterReply.unwinds = 0) :
    w.Tallies [.message m] (w.handle (.message m)).trace (w.handle (.message m)).watch := by
  have hsettles := settles_handle w (.message m)
  obtain ⟨events, alerts, hcounts, -⟩ := exists_counts_follow w.countMessage r
  have hhandle : w.handle (.message m) = ⟨.returned (),
      { (w.countMessage.follow r).watch with
        counts := (w.countMessage.follow r).watch.counts.record result },
      (w.countMessage.follow r).trace ++ failureLines m result⟩ := by
    rw [handle_message, hr, hend]
  obtain ⟨hexchanges, hanswered⟩ :=
    append_failureLines (w.countMessage.follow r).trace m result
  rw [hhandle] at hsettles ⊢
  rw [hcounts] at hsettles ⊢
  -- What following the message left alone is recorded now, by its result.
  obtain ⟨⟨hmessages, -, -, hfailures⟩, hignored, hvalids, hsettled⟩ := records_record
    { w.countMessage.counts with ibanEvents := events, alertsRaised := alerts } result
  generalize Stats.record { w.countMessage.counts with
    ibanEvents := events, alertsRaised := alerts } result = s at *
  refine ⟨hsettles, hmessages, hfailures, ?_, ?_, ?_⟩
  · show s.ignoredEvents = _ + [m].countP Message.isOther
    rw [countP_single, hother]
    exact hignored
  · show s.validIbans = _ + [m].countP Message.isValid
    rw [countP_single, hvalid]
    exact hvalids
  · rw [hexchanges, hanswered, hflushed, hunwinds]
    have hmessage : s.messages = w.counts.messages + 1 := hmessages
    have hresult : s.settled + (decide (result.toOption = some .alertRaised)).toNat
        = w.counts.settled + 1 := hsettled
    show s.messages + w.counts.settled = w.counts.messages + s.settled
      + (decide (result.toOption = some .alertRaised)).toNat + 0
    omega

/-- The answer that an alert ends with: a flush went well just when it succeeds, and a call unwound
just when it unwinds. -/
theorem exists_callEnd_emit (w : Watch) (event : AuditEvent) :
    ∃ e : CallEnd, (w.emit event).ending = e.ending
      ∧ (w.emit event).trace.exchanges.countP Exchange.isFlushed = (decide (e = .succeeds)).toNat
      ∧ (w.emit event).trace.answered.countP EmitterReply.unwinds
        = (decide (e = .unwinds)).toNat := by
  have htoNat : ∀ b : Bool, (if b = true then 1 else 0) = b.toNat := by decide
  -- An alert that was taken ends as its flush does, and any other as the call that hands it over.
  by_cases h : w.sendReply.ending = .succeeds
  · rw [emit_of_taken event h]
    refine ⟨_, rfl, ?_, ?_⟩
    · show List.countP Exchange.isFlushed
        [⟨.send _ _ _, _⟩, ⟨.flush _, (w.send event).watch.countAlert.flushReply⟩] = _
      rw [List.countP_cons_of_neg (by exact Bool.false_ne_true), List.countP_singleton, htoNat]
      rfl
    · show List.countP EmitterReply.unwinds
        [w.sendReply, (w.send event).watch.countAlert.flushReply] = _
      have hsent : ¬ w.sendReply.unwinds = true := by
        rw [EmitterReply.unwinds, h]
        decide
      rw [List.countP_cons_of_neg hsent, List.countP_singleton, htoNat]
      rfl
  · rw [emit_of_not_taken event h]
    refine ⟨_, rfl, ?_, ?_⟩
    · show List.countP Exchange.isFlushed [⟨.send _ _ _, _⟩] = _
      rw [List.countP_cons_of_neg (by exact Bool.false_ne_true)]
      show 0 = (decide (w.sendReply.ending = .succeeds)).toNat
      rw [decide_eq_false h]
      rfl
    · show List.countP EmitterReply.unwinds [w.sendReply] = _
      rw [List.countP_singleton, htoNat]
      rfl

/-- An alert is tallied by the answer with which it ends. -/
theorem tallies_suspect (w : Watch) {m : Message} {event : AuditEvent} {reason : Iban.Defect}
    (hr : m.reading = .suspect event reason) :
    w.Tallies [.message m] (w.handle (.message m)).trace (w.handle (.message m)).watch := by
  have hsettles := settles_handle w (.message m)
  obtain ⟨e, hend, hflushed, hunwinds⟩ := exists_callEnd_emit w.countMessage.countEvent event
  have hother : m.isOther = false := by rw [Message.isOther, hr]
  have hvalid : m.isValid = false := by rw [Message.isValid, hr]
  have hfollow : (w.countMessage.follow (.suspect event reason)).ending
      = e.ending.map (·.map fun _ => .alertRaised) := by rw [follow, hend]
  cases e with
  | succeeds => exact tallies_of_returned hr hfollow hother hvalid hflushed hunwinds
  | fails f => exact tallies_of_returned hr hfollow hother hvalid hflushed hunwinds
  | unwinds =>
    -- The message was counted, and nothing after it could be.
    have hhandle : w.handle (.message m) = ⟨.unwound,
        (w.countMessage.follow (.suspect event reason)).watch,
        (w.countMessage.follow (.suspect event reason)).trace⟩ := by
      rw [handle_message, hr, hfollow]
      rfl
    obtain ⟨events, alerts, hcounts, -⟩ :=
      exists_counts_follow w.countMessage (.suspect event reason)
    have hflushed' : (w.countMessage.follow (.suspect event reason)).trace.exchanges.countP
        Exchange.isFlushed = 0 := hflushed
    have hunwinds' : (w.countMessage.follow (.suspect event reason)).trace.answered.countP
        EmitterReply.unwinds = 1 := hunwinds
    rw [hhandle] at hsettles ⊢
    refine ⟨hsettles, ?_, ?_, ?_, ?_, ?_⟩
    · rw [hcounts]
      rfl
    · rw [hcounts]
      rfl
    · show _ = _ + [m].countP Message.isOther
      rw [hcounts, countP_single, hother]
      rfl
    · show _ = _ + [m].countP Message.isValid
      rw [hcounts, countP_single, hvalid]
      rfl
    · rw [hflushed', hunwinds', hcounts]
      show w.counts.messages + 1 + w.counts.settled
        = w.counts.messages + w.counts.settled + 0 + 1
      omega

/-- **Handling an outcome tallies it.** -/
theorem tallies_handle (w : Watch) (o : Outcome) :
    w.Tallies [o] (w.handle o).trace (w.handle o).watch := by
  have hsettles := settles_handle w o
  cases o with
  | idle => exact ⟨hsettles, rfl, rfl, rfl, rfl, rfl⟩
  | partitionEnd => exact ⟨hsettles, rfl, rfl, rfl, rfl, rfl⟩
  | failure f => exact ⟨hsettles, rfl, rfl, rfl, rfl, rfl⟩
  | message m =>
    -- Without an alert the reading tells the result, and nothing is flushed and nothing unwinds.
    cases hr : m.reading with
    | suspect event reason => exact tallies_suspect w hr
    | unread text =>
      have hother : m.isOther = false := by rw [Message.isOther, hr]
      have hvalid : m.isValid = false := by rw [Message.isValid, hr]
      exact tallies_of_returned hr rfl hother hvalid rfl rfl
    | other event =>
      have hother : m.isOther = true := by rw [Message.isOther, hr]
      have hvalid : m.isValid = false := by rw [Message.isValid, hr]
      exact tallies_of_returned hr rfl hother hvalid rfl rfl
    | valid event =>
      have hother : m.isOther = false := by rw [Message.isOther, hr]
      have hvalid : m.isValid = true := by rw [Message.isValid, hr]
      exact tallies_of_returned hr rfl hother hvalid rfl rfl

/-- **All turns are tallied**, however they end. -/
theorem tallies_turns (w : Watch) (script : List PollReply) :
    w.Tallies (w.turns script).trace.outcomes (w.turns script).trace (w.turns script).watch :=
  along_turns (fun hc he hs ha _ => .nil hc he hs ha) tallies_handle Tallies.trans w script

/-- **A run is tallied**: it does no more than its turns, as far as anything is counted. -/
theorem tallies_run (w : Watch) (script : List PollReply) :
    w.Tallies (w.run script).trace.outcomes (w.run script).trace (w.run script).watch := by
  obtain ⟨closing, htrace, hclosing, -⟩ := w.trace_run script
  obtain ⟨hemissions, hanswered⟩ := silent_of_isClosing hclosing
  have hwatch : (w.run script).watch = (w.turns script).watch.stop.1 := by
    have hc := w.run_course script
    generalize w.run script = report at hc ⊢
    cases hc with
    | left hn => rfl
    | unwound hn => rfl
  have hstop : ∀ v : Watch, v.stop.1.counts = v.counts ∧ v.stop.1.emitter = v.emitter := by
    intro v
    unfold stop
    cases v.phase with
    | running => exact ⟨rfl, rfl⟩
    | shuttingDown => exact ⟨rfl, rfl⟩
    | stopped => exact ⟨rfl, rfl⟩
  -- The line at the beginning and the release at the end count nothing.
  have hbegun : w.Tallies [] [.log (.running w.settings.alertTopic)] w := .nil rfl rfl rfl rfl
  have hended : (w.turns script).watch.Tallies [] closing (w.turns script).watch.stop.1 :=
    .nil (hstop _).1 (hstop _).2 hemissions hanswered
  have hall := hbegun.trans ((tallies_turns w script).trans hended)
  rw [List.nil_append, List.append_nil] at hall
  rw [(handling_run w script).2, htrace, hwatch]
  exact hall

/-! ### Requests -/

/-- **Messages that are handed in from outside are settled**, whether they fail, unwind or not, and
nothing else is counted for them. -/
theorem settles_answers (w : Watch) (requests : List Request) :
    w.Settles (requests.filterMap Request.message?) ((w.answers requests).1.flatMap (·.trace))
        (w.answers requests).2
      ∧ ∃ events alerts, (w.answers requests).2.counts
        = { w.counts with ibanEvents := events, alertsRaised := alerts } := by
  induction requests generalizing w with
  | nil => exact ⟨.of_silent rfl rfl rfl rfl rfl, _, _, rfl⟩
  | cons r rest ih =>
    obtain ⟨hlater, events, alerts, hcounts⟩ := ih (w.answer r).watch
    rw [answers]
    cases r with
    | trigger =>
      have hfirst : w.Settles [] (w.answer .trigger).trace (w.answer .trigger).watch :=
        .of_silent rfl rfl rfl rfl rfl
      exact ⟨hfirst.trans hlater, events, alerts, hcounts⟩
    | message m =>
      have hfirst : w.Settles [m] (w.answer (.message m)).trace (w.answer (.message m)).watch := by
        rw [answer, process_eq_follow]
        exact settles_follow w m
      have hfollow : (w.answer (.message m)).watch = (w.follow m.reading).watch := by
        rw [answer, process_eq_follow]
      obtain ⟨events', alerts', hcounts', -⟩ := exists_counts_follow w m.reading
      -- What was counted for the later requests is counted on top of this one.
      refine ⟨hfirst.trans hlater, events, alerts, ?_⟩
      rw [hcounts, hfollow, hcounts']

/-! ### The session -/

/-- The counts at the end of a session, told by what happened in it. -/
structure Balanced (emitter : Emitter) (requests : List Request) (s : Session) (stats : Stats) :
    Prop where
  /-- The messages that polls brought. -/
  messages : stats.messages = s.trace.messages.length
  /-- The failures of the stream, whatever stage they name. -/
  failures : stats.transportErrors = s.trace.outcomes.countP Outcome.isFailure
  /-- The messages of the run with an event of another kind. -/
  ignored : stats.ignoredEvents = s.trace.messages.countP Message.isOther
  /-- The messages of the run with a new identifier that is valid. -/
  valid : stats.validIbans = s.trace.messages.countP Message.isValid
  /-- Every message of the run is in one of four counts, or its alert was flushed. -/
  whole : stats.messages = stats.ignoredEvents + stats.validIbans + stats.decodeFailures
    + stats.deliveryFailures + s.trace.exchanges.countP Exchange.isFlushed
  /-- The new identifiers of the whole session: the valid ones, and one for each alert that was
  handed over. -/
  events : stats.ibanEvents
    = (requests.filterMap Request.message? ++ s.trace.messages).countP Message.isValid
      + s.happened.sends.length
  /-- The alerts of the whole session that were taken, whatever became of their flush. -/
  alerts : stats.alertsRaised = s.happened.exchanges.countP Exchange.isTaken
  /-- Every call of the emitter was answered, so that an exchange is a call with its own answer. -/
  paired : s.happened.Paired ∧ s.trace.Paired
  /-- The refused alerts as the emitter counts them, after all its answers. -/
  rejected : stats.rejectedDeliveries = emitter.rejected + s.happened.rejected
  /-- The emitter is asked for its count once the source is released, and not before. -/
  closed : ∃ before, s.trace
    = before ++ [.call .close, .counted stats.rejectedDeliveries, .log (.stopped stats)]
      ∧ ∀ refused, .counted refused ∉ before

/-- In a run that gives its counts back no answer of the emitter unwound. -/
theorem countP_unwinds_of_returned {w : Watch} {script : List PollReply} {stats : Stats}
    (h : (w.run script).ending = .returned stats) :
    (w.run script).trace.answered.countP EmitterReply.unwinds = 0 := by
  rw [List.countP_eq_zero]
  intro reply hreply hunwinds
  obtain ⟨x, hx, hanswered⟩ := List.mem_filterMap.mp hreply
  cases x with
  | answered reply' =>
    cases hanswered
    rw [(ending_run_eq_unwound_iff w script).mpr ⟨_, hx, hunwinds⟩] at h
    cases h
  | call c => cases hanswered
  | polled reply' seen => cases hanswered
  | counted refused => cases hanswered
  | log l => cases hanswered

/-- A run that gives its counts back asks the emitter for its count last, once the source is
released. -/
theorem trace_of_returned {w : Watch} {script : List PollReply} {stats : Stats}
    (hp : w.phase ≠ .stopped) (h : (w.run script).ending = .returned stats) :
    ∃ before, (w.run script).trace
      = before ++ [.call .close, .counted stats.rejectedDeliveries, .log (.stopped stats)]
        ∧ ∀ refused, .counted refused ∉ before := by
  have hstop := stop_snd_of_not_stopped (phase_turns script hp)
  have hc := w.run_course script
  generalize w.run script = report at hc h ⊢
  -- A run that unwinds gives no counts back.
  cases hc with
  | unwound hn => cases h
  | left hn =>
    obtain rfl := Ending.returned.inj h
    refine ⟨.log (.running w.settings.alertTopic)
      :: ((w.turns script).trace ++ [.log .stopping]), ?_, fun refused hbefore => ?_⟩
    · rw [hstop]
      simp only [List.cons_append, List.nil_append, List.append_assoc]
      rfl
    · -- Before the release there are the first line, the turns and the last line but one.
      rcases List.mem_cons.mp hbefore with heq | hturns
      · cases heq
      rcases List.mem_append.mp hturns with hturns | hlast
      · cases open_turns w script _ hturns
      · cases List.mem_singleton.mp hlast

/-- **The counts of every session that ends balance**: of any messages that are handed in from
outside and then a run, with any source and any answers of the emitter. -/
theorem balanced_session (settings : Settings) (signal : Signal) (emitter : Emitter)
    (clock : Nat → Instant) (requests : List Request) (script : List PollReply) {stats : Stats}
    (h : ((fresh settings signal emitter clock).session requests (some script)).ending
      = some (.returned stats)) :
    Balanced emitter requests
      ((fresh settings signal emitter clock).session requests (some script)) stats := by
  generalize hw : fresh settings signal emitter clock = w at h ⊢
  have hcounts : w.counts = {} := by rw [← hw]; rfl
  have hemitter : w.emitter = emitter := by rw [← hw]; rfl
  have hphase : (w.answers requests).2.phase ≠ .stopped := by
    rw [phase_answers, ← hw]
    exact nofun
  have hreturned : ((w.answers requests).2.run script).ending = .returned stats :=
    Option.some.inj h
  -- The requests are settled first, and only events and alerts are counted for them.
  obtain ⟨hsettles, events, alerts, hafter⟩ := settles_answers w requests
  have hhappened : (w.session requests (some script)).happened
      = (w.answers requests).1.flatMap (·.trace) ++ ((w.answers requests).2.run script).trace := by
    rw [Session.happened, answers_session]
    rfl
  have htrace : (w.session requests (some script)).trace
      = ((w.answers requests).2.run script).trace := rfl
  generalize (w.answers requests).1.flatMap (·.trace) = earlier at hsettles hhappened
  generalize (w.answers requests).2 = v at hsettles hafter hphase hreturned hhappened htrace ⊢
  -- Then the run is tallied, and nothing in it unwound.
  have htallies := tallies_run v script
  have hall := hsettles.trans htallies.settles
  have hbalance := htallies.balance
  rw [countP_unwinds_of_returned hreturned] at hbalance
  obtain rfl := stats_of_returned hreturned
  have hzero : v.counts.messages = 0 ∧ v.counts.transportErrors = 0 ∧ v.counts.ignoredEvents = 0
      ∧ v.counts.validIbans = 0 ∧ v.counts.settled = 0 := by
    rw [hafter, hcounts]
    exact ⟨rfl, rfl, rfl, rfl, rfl⟩
  obtain ⟨hmessages₀, hfailures₀, hignored₀, hvalid₀, hsettled₀⟩ := hzero
  constructor
  case messages =>
    rw [htrace]
    exact htallies.messages.trans (by rw [hmessages₀, Nat.zero_add]; rfl)
  case failures =>
    rw [htrace]
    exact htallies.failures.trans (by rw [hfailures₀, Nat.zero_add])
  case ignored =>
    rw [htrace]
    exact htallies.ignored.trans (by rw [hignored₀, Nat.zero_add]; rfl)
  case valid =>
    rw [htrace]
    exact htallies.valid.trans (by rw [hvalid₀, Nat.zero_add]; rfl)
  case whole =>
    rw [htrace]
    show (v.run script).watch.counts.messages = (v.run script).watch.counts.settled + _
    omega
  case events =>
    rw [htrace, hhappened]
    exact hall.events.trans (by rw [hcounts, Nat.zero_add]; rfl)
  case alerts =>
    rw [hhappened]
    exact hall.alerts.trans (by rw [hcounts, Nat.zero_add])
  case paired =>
    rw [hhappened, htrace]
    exact ⟨hall.paired, htallies.settles.paired⟩
  case rejected =>
    rw [hhappened, ← hemitter]
    exact hall.rejected
  case closed =>
    rw [htrace]
    exact trace_of_returned hphase hreturned

/-- A message of this kind that gives a user this identifier. -/
def telling (kind newIban : String) : Message :=
  { payload := some (utf8 (Json.writeTexts
      [("EventType", kind), ("UserId", "u1"), ("NewIban", newIban)])) }

/-- A fresh watch with an emitter that fails now and then: at a flush, at the alert after that, and
at the last flush. -/
def unreliable : Watch :=
  fresh ⟨"fraud-alerts", 10, 10⟩ {}
    { sends := [{}, { ending := .fails (.transport "down") }]
      flushes :=
        [{ ending := .fails (.delivery "late"), rejected := 2 }, {},
          { ending := .fails (.decode "odd") }] }
    fun _ => Instant.epoch

/-- Two messages from outside: one asks for an alert, the other has a valid identifier. -/
def alertAndValid : List Request :=
  [.message (telling "IBAN_UPDATED" "none"),
    .message (telling "IBAN_UPDATED" "RO49AAAA1B31007593840000")]

/-- A failure of the stream, a deletion marker, a valid identifier, an event of another kind and
three alerts, of which one is refused, one is flushed and one fails to be. -/
def everyOutcome : List PollReply :=
  [.failure (.decode "noise"), .message {}, .partitionEnd,
    .message (telling "IBAN_UPDATED" "RO49AAAA1B31007593840000"), .message (telling "LOGIN" ""),
    .message (telling "IBAN_UPDATED" "RO0"), .message (telling "IBAN_UPDATED" "RO1"),
    .message (telling "IBAN_UPDATED" "RO2")].map .bringing

/-- What is counted of it. -/
def everyOutcomeStats : Stats :=
  { messages := 6, ignoredEvents := 1, ibanEvents := 6, validIbans := 1, alertsRaised := 3,
    decodeFailures := 3, transportErrors := 1, rejectedDeliveries := 2 }

/-- A session in which everything that can be counted comes up balances. -/
theorem balanced_everyOutcome :
    (unreliable.session alertAndValid (some everyOutcome)).ending
        = some (.returned everyOutcomeStats)
      ∧ Balanced unreliable.emitter alertAndValid
        (unreliable.session alertAndValid (some everyOutcome)) everyOutcomeStats := by
  have h : (unreliable.session alertAndValid (some everyOutcome)).ending
      = some (.returned everyOutcomeStats) := by
    decide +kernel
  exact ⟨h, balanced_session _ _ _ _ _ _ h⟩

end Watch

end IbanWatch
