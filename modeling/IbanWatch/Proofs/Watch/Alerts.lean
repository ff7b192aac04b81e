import IbanWatch.Proofs.Watch.Signals

/-!
# Which alerts a run hands over

The alerts of a run are those of the suspicious messages that its polls brought, one for one and in
order.  The invariant carried along the turns is that the clock was read once for every alert, so
that each alert bears the instant read while its own message was handled.

## Main definitions

* `Watch.alerts` — the calls that hand over the alerts for a row of events.
* `Trace.sends`, `Trace.suspects` — the alerts handed over, and the events that ask for one.
* `Watch.Raises` — what happened raised an alert for each suspicious event and no other.

## Main results

* `raises_handle`, `raises_turn`, `raises_turns` — handling an outcome, one turn and all turns raise
  the alerts that they should.
* `sends_run` — the alerts of a run.
-/

namespace IbanWatch

open Shutdown

/-! ### Alerts in a row of occurrences -/

/-- Whether the call hands over an alert. -/
def Call.isSend : Call → Bool
  | .send _ _ _ => true
  | .poll _ | .flush _ | .close => false

namespace Trace

/-- The calls that hand over an alert. -/
def sends (t : Trace) : List Call := t.calls.filter Call.isSend

/-- The events for which the outcomes of the polls ask for an alert. -/
def suspects (t : Trace) : List AuditEvent := t.outcomes.filterMap Outcome.suspect?

@[simp] theorem sends_append (t u : Trace) : sends (t ++ u) = sends t ++ sends u := by
  rw [sends, calls_append, List.filter_append]
  rfl

@[simp] theorem suspects_append (t u : Trace) :
    suspects (t ++ u) = suspects t ++ suspects u := by
  rw [suspects, outcomes_append, List.filterMap_append]
  rfl

end Trace

namespace Watch

/-- The calls that hand over the alerts for a row of events, each with the next reading of the
clock. -/
def alerts (w : Watch) (events : List AuditEvent) : List Call :=
  events.mapIdx fun i event =>
    .send w.settings.alertTopic event.userId
      (FraudAlert.invalidIban event (w.clock (w.readings + i))).encode

/-- From `w` to `v` an alert was raised for each of these events and no other, and the clock was
read once for each. -/
structure Raises (w : Watch) (t : Trace) (events : List AuditEvent) (v : Watch) : Prop where
  /-- The alerts that were handed over. -/
  sends : t.sends = w.alerts events
  /-- The readings of the clock. -/
  readings : v.readings = w.readings + events.length
  /-- All else that alerts hang on is as before. -/
  keeps : v.settings = w.settings ∧ v.clock = w.clock

/-- The alerts for two rows of events are those for the first, and those for the second of a watch
that has read the clock for the first. -/
theorem Raises.alerts_append {w v : Watch} {t : Trace} {events : List AuditEvent}
    (h : w.Raises t events v) (later : List AuditEvent) :
    w.alerts (events ++ later) = t.sends ++ v.alerts later := by
  obtain ⟨hset, hclock⟩ := h.keeps
  -- The later events come after all readings for the earlier ones.
  have hadd : ∀ i, w.readings + (i + events.length) = w.readings + events.length + i := by
    intro i
    omega
  rw [h.sends, alerts, alerts, alerts, List.mapIdx_append, hset, hclock, h.readings]
  simp only [hadd]

/-- What raises alerts and goes on with what raises alerts raises them all. -/
theorem Raises.trans {u v w : Watch} {t₁ t₂ : Trace} {e₁ e₂ : List AuditEvent}
    (h₁ : u.Raises t₁ e₁ v) (h₂ : v.Raises t₂ e₂ w) : u.Raises (t₁ ++ t₂) (e₁ ++ e₂) w where
  sends := by rw [Trace.sends_append, h₁.alerts_append, h₂.sends]
  readings := by rw [h₂.readings, h₁.readings, List.length_append, Nat.add_assoc]
  keeps := ⟨h₂.keeps.1.trans h₁.keeps.1, h₂.keeps.2.trans h₁.keeps.2⟩

theorem Raises.nil {w v : Watch} {t : Trace} (ht : t.sends = []) (hr : v.readings = w.readings)
    (hs : v.settings = w.settings) (hc : v.clock = w.clock) : w.Raises t [] v :=
  ⟨ht, hr, hs, hc⟩

/-! ### One outcome -/

/-- An alert is handed over once, whether it is taken or not. -/
theorem raises_emit (w : Watch) (event : AuditEvent) :
    w.Raises (w.emit event).trace [event] (w.emit event).watch := by
  have hsend : Trace.sends [.call (w.sendCall (w.alertFor event)), .answered w.sendReply]
      = w.alerts [event] := rfl
  -- A flush hands over nothing, so the alert is the only one in either case.
  by_cases h : w.sendReply.ending = .succeeds
  · rw [emit_of_taken event h]
    refine ⟨?_, rfl, rfl, rfl⟩
    rw [Trace.sends_append, send_eq, hsend]
    exact List.append_nil _
  · rw [emit_of_not_taken event h]
    exact ⟨hsend, rfl, rfl, rfl⟩

theorem raises_follow (w : Watch) (m : Message) :
    w.Raises (w.follow m.reading).trace m.suspect?.toList (w.follow m.reading).watch := by
  rw [Message.suspect?]
  cases m.reading with
  | unread text => exact .nil rfl rfl rfl rfl
  | other event => exact .nil rfl rfl rfl rfl
  | valid event => exact .nil rfl rfl rfl rfl
  | suspect event reason =>
    obtain ⟨hs, hr, hk⟩ := raises_emit w.countEvent event
    exact ⟨hs, hr, hk⟩

/-- **Handling an outcome raises the alert that is due, if one is.** -/
theorem raises_handle (w : Watch) (o : Outcome) :
    w.Raises (w.handle o).trace o.suspect?.toList (w.handle o).watch := by
  cases o with
  | idle => exact .nil rfl rfl rfl rfl
  | partitionEnd => exact .nil rfl rfl rfl rfl
  | failure f => exact .nil rfl rfl rfl rfl
  | message m =>
    obtain ⟨hs, hr, hk⟩ := raises_follow w.countMessage m
    rw [handle_message]
    cases (w.countMessage.follow m.reading).ending with
    | unwound => exact ⟨hs, hr, hk⟩
    | returned result =>
      -- Counting and telling the result calls nobody.
      refine ⟨?_, hr, hk⟩
      have hf : (failureLines m result).sends = [] := by cases result <;> rfl
      rw [Trace.sends_append, hf, List.append_nil]
      exact hs

/-! ### All turns -/

theorem raises_turn (w : Watch) (reply : PollReply) :
    w.Raises (w.turn reply).trace (w.turn reply).trace.suspects (w.turn reply).watch := by
  have hc := w.turn_course reply
  have hpoll : w.Raises (w.pollTrace reply) [] (w.polled reply) := .nil rfl rfl rfl rfl
  -- A poll raises nothing of its own, so a turn raises what handling its outcome does.
  have hhandle : ∀ o, (reply.poll w.signal).1 = .completed o →
      w.Raises (w.pollTrace reply ++ ((w.polled reply).handle o).trace)
        (Trace.suspects (w.pollTrace reply ++ ((w.polled reply).handle o).trace))
        ((w.polled reply).handle o).watch := by
    intro o hs
    have hsus : Trace.suspects (w.pollTrace reply ++ ((w.polled reply).handle o).trace)
        = [] ++ o.suspect?.toList := by
      rw [Trace.suspects, outcomes_pollTrace_append hs]
      cases h : o.suspect? <;> simp [h]
    rw [hsus]
    exact hpoll.trans (raises_handle (w.polled reply) o)
  generalize w.turn reply = turn at hc ⊢
  cases hc with
  | closed => exact .nil rfl rfl rfl rfl
  | asked => exact .nil rfl rfl rfl rfl
  | abandoned hp hf hs =>
    rw [Trace.suspects, outcomes_pollTrace (by rw [hs]; exact nofun)]
    exact .nil rfl rfl rfl rfl
  | unwound hp hf hs =>
    rw [Trace.suspects, outcomes_pollTrace (by rw [hs]; exact nofun)]
    exact hpoll
  | handled hp hf hs hr => exact hhandle _ hs
  | broken hp hf hs hr => exact hhandle _ hs

/-- **The turns of a watch raise the alerts that are due**, however they end. -/
theorem raises_turns (w : Watch) (script : List PollReply) :
    w.Raises (w.turns script).trace (w.turns script).trace.suspects (w.turns script).watch :=
  turns_induct (motive := fun w _ t => w.Raises t.trace t.trace.suspects t.watch)
    (fun w reply _ _ => raises_turn w reply)
    (fun w reply later rest _ ih => by
      rw [Trace.suspects_append]
      exact (raises_turn w reply).trans ih)
    w script

/-! ### The run -/

/-- **The alerts of a run**: one for each message that a poll brought and that reads as a new
identifier with a defect, in the order of the messages, with the topic that was told, the user as
its key and the instant read for it; and no other.  The polls go through the script in order, and
what each one brought is what its reply gives under the signal of that moment. -/
theorem sends_run (w : Watch) (script : List PollReply) :
    let t := (w.run script).trace
    t.sends = (t.outcomes.filterMap Outcome.suspect?).mapIdx (fun i event =>
        .send w.settings.alertTopic event.userId
          (FraudAlert.invalidIban event (w.clock (w.readings + i))).encode)
      ∧ t.replies <+: script ++ [lastReply, lastReply] ∧ t.Heeds w.signal := by
  refine ⟨?_, replies_run w script, heeds_run w script⟩
  obtain ⟨closing, htrace, hclosing, hcalls⟩ := w.trace_run script
  have hquiet : closing.Quiet := fun x hx => isPoll_of_isClosing (hclosing x hx)
  -- All that is called when a run ends is the release of the source.
  have hsends : closing.sends = [] := by
    rw [Trace.sends, hcalls, stop]
    split <;> rfl
  have hall : ∀ t : Trace, Trace.sends (.log (.running w.settings.alertTopic) :: t) = t.sends
      ∧ Trace.outcomes (.log (.running w.settings.alertTopic) :: t) = t.outcomes :=
    fun t => ⟨rfl, rfl⟩
  rw [htrace, (hall _).1, (hall _).2, Trace.sends_append, Trace.outcomes_append, hsends,
    hquiet.outcomes, List.append_nil, List.append_nil]
  exact (raises_turns w script).sends

end Watch

end IbanWatch
