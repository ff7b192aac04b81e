import IbanWatch.Proofs.Watch.Turns

/-!
# What was counted before

A watch counts, but it never looks at its counts.  So a watch with a head start, whose counts are
larger from the beginning, does the same as one without: its calls, its answers, its lines and its
ends are the same at every step, and at last its counts are larger by just the head start.

## Main definitions

* `Stats.plus` — counts with others added to them.
* `Watch.ahead`, with one for reports and turns — the same with a head start.
* `Outcome.Passes` — the outcome leaves nothing behind but lines and counts.

## Main results

* `process_ahead`, `handle_ahead` — a message and an outcome are handled in the same way.
* `turn_of_passes` — a turn that polls an outcome which passes.
* `turn_ahead`, `turns_ahead` — a turn and all turns go the same way.
-/

namespace IbanWatch

open Shutdown

/-! ### Counts -/

namespace Stats

/-- Both counts together.  The refused alerts are those of the first, since the emitter counts
them. -/
def plus (s extra : Stats) : Stats where
  messages := s.messages + extra.messages
  ignoredEvents := s.ignoredEvents + extra.ignoredEvents
  ibanEvents := s.ibanEvents + extra.ibanEvents
  validIbans := s.validIbans + extra.validIbans
  alertsRaised := s.alertsRaised + extra.alertsRaised
  decodeFailures := s.decodeFailures + extra.decodeFailures
  transportErrors := s.transportErrors + extra.transportErrors
  deliveryFailures := s.deliveryFailures + extra.deliveryFailures
  rejectedDeliveries := s.rejectedDeliveries

@[simp] theorem plus_zero (s : Stats) : s.plus {} = s := rfl

theorem record_plus (s extra : Stats) (result : Except Failure Verdict) :
    (s.plus extra).record result = (s.record result).plus extra := by
  cases result with
  | ok verdict => cases verdict <;> simp only [record, plus, Nat.add_right_comm]
  | error f => cases f <;> simp only [record, plus, Nat.add_right_comm]

theorem plus_record (s extra : Stats) (result : Except Failure Verdict) :
    s.plus (extra.record result) = (s.plus extra).record result := by
  cases result with
  | ok verdict => cases verdict <;> rfl
  | error f => cases f <;> rfl

end Stats

/-! ### A head start -/

/-- The same watch, with a head start in its counts. -/
def Watch.ahead (w : Watch) (extra : Stats) : Watch := { w with counts := w.counts.plus extra }

/-- The same report, of a watch with a head start. -/
def Report.ahead {α : Type} (r : Report α) (extra : Stats) : Report α :=
  ⟨r.ending, r.watch.ahead extra, r.trace⟩

/-- The same turn, of a watch with a head start. -/
def Turn.ahead (t : Turn) (extra : Stats) : Turn := ⟨t.next, t.watch.ahead extra, t.trace⟩

/-- The outcome passes: whichever watch handles it calls nobody and goes on, only that these lines
are logged and that its counts grow by so much. -/
def Outcome.Passes (o : Outcome) (extra : Stats) (lines : List LogLine) : Prop :=
  ∀ w : Watch, w.handle o = ⟨.returned (), w.ahead extra, lines.map .log⟩

theorem Outcome.passes_idle : Outcome.idle.Passes {} [] := fun _ => rfl

theorem Outcome.passes_partitionEnd : Outcome.partitionEnd.Passes {} [.partitionEnd] := fun _ => rfl

namespace Watch

@[simp] theorem ahead_zero (w : Watch) : w.ahead {} = w := rfl

@[simp] theorem stats_ahead (w : Watch) (extra : Stats) :
    (w.ahead extra).stats = w.stats.plus extra := rfl

/-! ### One outcome -/

theorem countAlert_ahead (w : Watch) (extra : Stats) :
    (w.ahead extra).countAlert = w.countAlert.ahead extra := by
  simp only [countAlert, ahead, Stats.plus, Nat.add_right_comm]

theorem countEvent_ahead (w : Watch) (extra : Stats) :
    (w.ahead extra).countEvent = w.countEvent.ahead extra := by
  simp only [countEvent, ahead, Stats.plus, Nat.add_right_comm]

theorem countMessage_ahead (w : Watch) (extra : Stats) :
    (w.ahead extra).countMessage = w.countMessage.ahead extra := by
  simp only [countMessage, ahead, Stats.plus, Nat.add_right_comm]

theorem emit_ahead (w : Watch) (event : AuditEvent) (extra : Stats) :
    (w.ahead extra).emit event = (w.emit event).ahead extra := by
  have hsend : (w.ahead extra).send event = (w.send event).ahead extra := rfl
  -- The emitter does not see the counts, so it takes the same alerts.
  by_cases h : w.sendReply.ending = .succeeds
  · rw [emit_of_taken event h, emit_of_taken (w := w.ahead extra) event h, hsend]
    simp only [Report.ahead, countAlert_ahead]
    rfl
  · rw [emit_of_not_taken event h, emit_of_not_taken (w := w.ahead extra) event h, hsend]

theorem follow_ahead (w : Watch) (r : Reading) (extra : Stats) :
    (w.ahead extra).follow r = (w.follow r).ahead extra := by
  cases r with
  | unread text => rfl
  | other event => rfl
  | valid event =>
    rw [follow, countEvent_ahead]
    rfl
  | suspect event reason =>
    rw [follow, countEvent_ahead, emit_ahead]
    rfl

theorem process_ahead (w : Watch) (m : Message) (extra : Stats) :
    (w.ahead extra).process m = (w.process m).ahead extra := by
  rw [process_eq_follow, process_eq_follow, follow_ahead]

/-- **An outcome is handled in the same way** with a head start. -/
theorem handle_ahead (w : Watch) (o : Outcome) (extra : Stats) :
    (w.ahead extra).handle o = (w.handle o).ahead extra := by
  cases o with
  | idle => rfl
  | partitionEnd => rfl
  | failure f => simp only [handle, Report.ahead, ahead, Stats.plus, Nat.add_right_comm]
  | message m =>
    -- The message and its result are counted on top of the head start.
    rw [handle_message, handle_message, countMessage_ahead, follow_ahead]
    simp only [Report.ahead]
    cases (w.countMessage.follow m.reading).ending with
    | unwound => rfl
    | returned result => simp only [ahead, Stats.record_plus]

/-! ### The turns -/

/-- A turn that polls an outcome which passes is followed by another, and leaves nothing but lines
and larger counts. -/
theorem turn_of_passes {w : Watch} {o : Outcome} {extra : Stats} {lines : List LogLine}
    (h : o.Passes extra lines) (suspends : Bool) (hp : w.phase = .running)
    (hf : w.signal.fired = false) :
    w.turn { suspends, ending := .brings o } = ⟨.again, w.ahead extra,
      w.pollTrace { suspends, ending := .brings o } ++ lines.map .log⟩ := by
  rw [turn_of_brings o suspends hp hf, h w]

/-- **A turn goes the same way** with a head start. -/
theorem turn_ahead (w : Watch) (reply : PollReply) (extra : Stats) :
    (w.ahead extra).turn reply = (w.turn reply).ahead extra := by
  have hpolled : (w.ahead extra).polled reply = (w.polled reply).ahead extra := rfl
  have hphase : (w.ahead extra).phase = w.phase := rfl
  have hsignal : (w.ahead extra).signal = w.signal := rfl
  rw [turn, turn, hphase, hsignal]
  -- How far the watch is and what the poll does are the same, so only handling its outcome is left.
  cases w.phase with
  | shuttingDown => rfl
  | stopped => rfl
  | running =>
    cases w.signal.fired with
    | true => rfl
    | false =>
      simp only [Bool.false_eq_true, if_false, pollTurn, hsignal]
      cases (reply.poll w.signal).1 with
      | abandoned => rfl
      | unwound => rfl
      | completed o =>
        simp only [hpolled, handle_ahead, Report.ahead]
        cases ((w.polled reply).handle o).ending with
        | returned u => rfl
        | unwound => rfl

theorem andThen_ahead {t : Turn} {next : Watch → Turn} {extra : Stats}
    (h : ∀ w : Watch, next (w.ahead extra) = (next w).ahead extra) :
    (t.ahead extra).andThen next = (t.andThen next).ahead extra := by
  have hnext : (t.ahead extra).next = t.next := rfl
  rw [Turn.andThen, Turn.andThen, hnext]
  cases t.next with
  | leave => rfl
  | unwound => rfl
  | again =>
    -- The head start is still there when the next turns begin.
    have hrest : next (t.ahead extra).watch = (next t.watch).ahead extra := h t.watch
    simp only [hrest]
    rfl

/-- **All turns go the same way** with a head start. -/
theorem turns_ahead (w : Watch) (script : List PollReply) (extra : Stats) :
    (w.ahead extra).turns script = (w.turns script).ahead extra := by
  induction script generalizing w with
  | nil =>
    rw [turns_nil, turns_nil, turn_ahead]
    exact andThen_ahead fun v => turn_ahead v lastReply extra
  | cons reply script ih =>
    rw [turns_cons, turns_cons, turn_ahead]
    exact andThen_ahead ih

end Watch

end IbanWatch
