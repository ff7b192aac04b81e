import IbanWatch.Proofs.Watch.Exchanges
import IbanWatch.Proofs.Watch.Undisturbed
import Mathlib.Data.List.Forall2

/-!
# What hangs on the clock

A watch reads its clock for one purpose only: the instant goes into the alert that is handed over
next.  So two watches that differ in their clocks, or in how often they have read them, make the
same calls, get the same answers and log the same lines, up to the instants in the payloads of
their alerts.  The relation of the two watches is kept by every step, and from that by whole runs.

## Main definitions

* `Call.SameButInstant`, `Trace.SameButInstants` — calls and rows that agree up to the instants.
* `Watch.SameButClock` — watches that agree up to the clock.
* `Report.Alike`, `Turn.Alike` — reports and turns of such watches that agree.

## Main results

* `alike_handle` — an outcome is handled alike.
* `alike_turn`, `alike_turns`, `alike_run` — a turn, all turns and runs go alike.
-/

namespace IbanWatch

open Time Shutdown

/-! ### Rows that agree up to the instants -/

/-- The calls are the same, or they hand over alerts for the same event in the same topic. -/
inductive Call.SameButInstant : Call → Call → Prop
  /-- The calls are the same. -/
  | same (c : Call) : SameButInstant c c
  /-- The alerts differ in their instants only. -/
  | alert (topic : String) (event : AuditEvent) (at₁ at₂ : Instant) :
      SameButInstant (.send topic event.userId (FraudAlert.invalidIban event at₁).encode)
        (.send topic event.userId (FraudAlert.invalidIban event at₂).encode)

/-- The occurrences are the same, or such calls. -/
inductive Occurrence.SameButInstant : Occurrence → Occurrence → Prop
  /-- The occurrences are the same. -/
  | same (x : Occurrence) : SameButInstant x x
  /-- The calls agree up to the instant. -/
  | call {c d : Call} (h : c.SameButInstant d) : SameButInstant (.call c) (.call d)

namespace Call

theorem SameButInstant.isEmission_eq {c d : Call} (h : c.SameButInstant d) :
    d.isEmission = c.isEmission := by
  cases h with
  | same => rfl
  | alert => simp only [isEmission]

end Call

namespace Trace

/-- The rows agree up to the instants in alerts. -/
def SameButInstants (t u : Trace) : Prop := List.Forall₂ Occurrence.SameButInstant t u

theorem SameButInstants.refl (t : Trace) : SameButInstants t t :=
  List.forall₂_same.mpr fun x _ => .same x

theorem SameButInstants.cons {x y : Occurrence} {t u : Trace} (hx : x.SameButInstant y)
    (h : SameButInstants t u) : SameButInstants (x :: t) (y :: u) :=
  List.Forall₂.cons hx h

theorem SameButInstants.append {t₁ t₂ u₁ u₂ : Trace} (h₁ : SameButInstants t₁ u₁)
    (h₂ : SameButInstants t₂ u₂) : SameButInstants (t₁ ++ t₂) (u₁ ++ u₂) :=
  List.rel_append h₁ h₂

theorem SameButInstants.calls {t u : Trace} (h : SameButInstants t u) :
    List.Forall₂ Call.SameButInstant t.calls u.calls := by
  induction h with
  | nil => exact .nil
  | @cons x _ _ _ hx _ ih =>
    cases hx with
    | call hc => exact .cons hc ih
    | same =>
      cases x with
      | call c => exact .cons (.same c) ih
      | polled reply seen => exact ih
      | answered reply => exact ih
      | counted refused => exact ih
      | log l => exact ih

/-- What is asked of the emitter agrees, call for call. -/
theorem SameButInstants.emissions {t u : Trace} (h : SameButInstants t u) :
    List.Forall₂ Call.SameButInstant t.emissions u.emissions := by
  rw [Trace.emissions, Trace.emissions]
  have hcalls := h.calls
  -- Which calls go to the emitter does not hang on the instants, so it is enough to look at the
  -- calls.
  generalize t.calls = cs at hcalls ⊢
  generalize u.calls = ds at hcalls ⊢
  induction hcalls with
  | nil => exact .nil
  | @cons c d cs ds hc _ ih =>
    rw [List.filter_cons, List.filter_cons, hc.isEmission_eq]
    by_cases he : c.isEmission = true
    · rw [if_pos he, if_pos he]
      exact .cons hc ih
    · rw [if_neg he, if_neg he]
      exact ih

theorem SameButInstants.replies {t u : Trace} (h : SameButInstants t u) :
    u.replies = t.replies := by
  induction h with
  | nil => rfl
  | @cons x _ _ _ hx _ ih =>
    cases hx with
    | call => exact ih
    | same =>
      cases x with
      | polled reply seen => exact congrArg (reply :: ·) ih
      | call c => exact ih
      | answered reply => exact ih
      | counted refused => exact ih
      | log l => exact ih

end Trace

/-! ### Watches that agree up to the clock -/

/-- The same watch on another clock, which was read that often. -/
def Watch.onClock (w : Watch) (clock : Nat → Instant) (readings : Nat) : Watch :=
  { w with clock, readings }

/-- The second watch is the first one on some clock. -/
def Watch.SameButClock (w v : Watch) : Prop := ∃ clock readings, v = w.onClock clock readings

/-- Two reports that agree up to the clock. -/
structure Report.Alike {α : Type} (r s : Report α) : Prop where
  /-- They end in the same way. -/
  ending : s.ending = r.ending
  /-- They leave the same watch. -/
  watch : r.watch.SameButClock s.watch
  /-- The same happens. -/
  trace : r.trace.SameButInstants s.trace

/-- Two turns that agree up to the clock. -/
structure Turn.Alike (t u : Turn) : Prop where
  /-- The same comes after them. -/
  next : u.next = t.next
  /-- They leave the same watch. -/
  watch : t.watch.SameButClock u.watch
  /-- The same happens. -/
  trace : t.trace.SameButInstants u.trace

namespace Watch

theorem SameButClock.refl (w : Watch) : w.SameButClock w := ⟨w.clock, w.readings, rfl⟩

theorem SameButClock.stats {w v : Watch} (h : w.SameButClock v) : v.stats = w.stats := by
  obtain ⟨clock, readings, rfl⟩ := h
  rfl

theorem SameButClock.emitter {w v : Watch} (h : w.SameButClock v) : v.emitter = w.emitter := by
  obtain ⟨clock, readings, rfl⟩ := h
  rfl

/-! ### One outcome -/

/-- The reading of the clock goes into the alert and nowhere else. -/
theorem alike_emit {w v : Watch} (h : w.SameButClock v) (event : AuditEvent) :
    (w.emit event).Alike (v.emit event) := by
  obtain ⟨clock, readings, rfl⟩ := h
  have hcall : Occurrence.SameButInstant (.call (w.sendCall (w.alertFor event)))
      (.call ((w.onClock clock readings).sendCall ((w.onClock clock readings).alertFor event))) :=
    .call (.alert w.settings.alertTopic event _ _)
  -- The emitter answers both in the same way, since it does not look at what it is handed.
  by_cases hr : w.sendReply.ending = .succeeds
  · rw [emit_of_taken event hr, emit_of_taken (w := w.onClock clock readings) event hr]
    exact ⟨rfl, ⟨clock, readings + 1, rfl⟩, .cons hcall (.cons (.same _) (.refl _))⟩
  · rw [emit_of_not_taken event hr, emit_of_not_taken (w := w.onClock clock readings) event hr]
    exact ⟨rfl, ⟨clock, readings + 1, rfl⟩, .cons hcall (.refl _)⟩

theorem alike_follow {w v : Watch} (h : w.SameButClock v) (r : Reading) :
    (w.follow r).Alike (v.follow r) := by
  have hcount : w.countEvent.SameButClock v.countEvent := by
    obtain ⟨clock, readings, rfl⟩ := h
    exact ⟨clock, readings, rfl⟩
  cases r with
  | unread text => exact ⟨rfl, h, .refl _⟩
  | other event => exact ⟨rfl, h, .refl _⟩
  | valid event => exact ⟨rfl, hcount, .refl _⟩
  | suspect event reason =>
    obtain ⟨hending, hwatch, htrace⟩ := alike_emit hcount event
    refine ⟨?_, hwatch, .cons (.same _) (.cons (.same _) htrace)⟩
    show (v.countEvent.emit event).ending.map _ = _
    rw [hending]
    rfl

/-- **An outcome is handled alike**, whatever the clock. -/
theorem alike_handle {w v : Watch} (h : w.SameButClock v) (o : Outcome) :
    (w.handle o).Alike (v.handle o) := by
  cases o with
  | idle => exact ⟨rfl, h, .refl _⟩
  | partitionEnd => exact ⟨rfl, h, .refl _⟩
  | failure f =>
    obtain ⟨clock, readings, rfl⟩ := h
    exact ⟨rfl, ⟨clock, readings, rfl⟩, .refl _⟩
  | message m =>
    have hcount : w.countMessage.SameButClock v.countMessage := by
      obtain ⟨clock, readings, rfl⟩ := h
      exact ⟨clock, readings, rfl⟩
    obtain ⟨hending, hwatch, htrace⟩ := alike_follow hcount m.reading
    rw [handle_message, handle_message, hending]
    cases (w.countMessage.follow m.reading).ending with
    | unwound => exact ⟨rfl, hwatch, htrace⟩
    | returned result =>
      -- The result is counted in both, and the counts were the same before.
      obtain ⟨clock, readings, hv⟩ := hwatch
      refine ⟨rfl, ⟨clock, readings, ?_⟩, htrace.append (.refl _)⟩
      simp only [hv]
      rfl

/-! ### The turns -/

/-- **A turn goes alike**, whatever the clock. -/
theorem alike_turn {w v : Watch} (h : w.SameButClock v) (reply : PollReply) :
    (w.turn reply).Alike (v.turn reply) := by
  have hpolled : (w.polled reply).SameButClock (v.polled reply) := by
    obtain ⟨clock, readings, rfl⟩ := h
    exact ⟨clock, readings, rfl⟩
  have hhandle := alike_handle hpolled
  obtain ⟨clock, readings, rfl⟩ := h
  have hphase : (w.onClock clock readings).phase = w.phase := rfl
  have hsignal : (w.onClock clock readings).signal = w.signal := rfl
  have hpoll : (w.onClock clock readings).pollTrace reply = w.pollTrace reply := rfl
  -- Phase, trigger and poll are those of the same watch, so both turns take the same course.
  rw [turn, turn, hphase, hsignal]
  cases w.phase with
  | shuttingDown => exact ⟨rfl, ⟨clock, readings, rfl⟩, .refl _⟩
  | stopped => exact ⟨rfl, ⟨clock, readings, rfl⟩, .refl _⟩
  | running =>
    cases w.signal.fired with
    | true => exact ⟨rfl, ⟨clock, readings, rfl⟩, .refl _⟩
    | false =>
      simp only [Bool.false_eq_true, if_false, pollTurn, hsignal, hpoll]
      cases (reply.poll w.signal).1 with
      | abandoned => exact ⟨rfl, ⟨clock, readings, rfl⟩, .refl _⟩
      | unwound => exact ⟨rfl, ⟨clock, readings, rfl⟩, .refl _⟩
      | completed o =>
        obtain ⟨hending, hwatch, htrace⟩ := hhandle o
        simp only [hending]
        cases ((w.polled reply).handle o).ending with
        | returned u => exact ⟨rfl, hwatch, .append (.refl _) htrace⟩
        | unwound => exact ⟨rfl, hwatch, .append (.refl _) htrace⟩

/-- What follows two turns goes alike if the turns do. -/
theorem alike_andThen {t u : Turn} {next : Watch → Turn} (h : t.Alike u)
    (hnext : ∀ w v : Watch, w.SameButClock v → (next w).Alike (next v)) :
    (t.andThen next).Alike (u.andThen next) := by
  have hrest := hnext t.watch u.watch h.watch
  rw [Turn.andThen, Turn.andThen, h.next]
  cases t.next with
  | leave => exact h
  | unwound => exact h
  | again => exact ⟨hrest.next, hrest.watch, h.trace.append hrest.trace⟩

/-- **All turns go alike**, whatever the clock. -/
theorem alike_turns {w v : Watch} (h : w.SameButClock v) (script : List PollReply) :
    (w.turns script).Alike (v.turns script) := by
  induction script generalizing w v with
  | nil =>
    rw [turns_nil, turns_nil]
    exact alike_andThen (alike_turn h lastReply) fun _ _ h => alike_turn h lastReply
  | cons reply script ih =>
    rw [turns_cons, turns_cons]
    exact alike_andThen (alike_turn h reply) fun _ _ h => ih h

/-! ### The run -/

theorem alike_stop {w v : Watch} (h : w.SameButClock v) :
    w.stop.1.SameButClock v.stop.1 ∧ v.stop.2 = w.stop.2 := by
  obtain ⟨clock, readings, rfl⟩ := h
  have hphase : (w.onClock clock readings).phase = w.phase := rfl
  rw [stop, stop, hphase]
  cases w.phase with
  | running => exact ⟨⟨clock, readings, rfl⟩, rfl⟩
  | shuttingDown => exact ⟨⟨clock, readings, rfl⟩, rfl⟩
  | stopped => exact ⟨⟨clock, readings, rfl⟩, rfl⟩

/-- **Runs go alike**, whatever the clock. -/
theorem alike_run {w v : Watch} (h : w.SameButClock v) (script : List PollReply) :
    (w.run script).Alike (v.run script) := by
  obtain ⟨hnext, hwatch, htrace⟩ := alike_turns h script
  obtain ⟨hstopped, hrelease⟩ := alike_stop hwatch
  have htopic : v.settings.alertTopic = w.settings.alertTopic := by
    obtain ⟨clock, readings, rfl⟩ := h
    rfl
  have hw := w.run_course script
  have hv := v.run_course script
  generalize w.run script = r at hw ⊢
  generalize v.run script = s at hv ⊢
  -- The turns end in the same way, so one run is left when the other is.
  cases hw with
  | left hn =>
    cases hv with
    | unwound hn' =>
      rw [hnext, hn] at hn'
      cases hn'
    | left =>
      refine ⟨?_, hstopped, ?_⟩
      · rw [hstopped.stats]
      · rw [hstopped.stats, hstopped.emitter, hrelease, htopic]
        exact .cons (.same _) (htrace.append (.refl _))
  | unwound hn =>
    cases hv with
    | left hn' =>
      rw [hnext, hn] at hn'
      cases hn'
    | unwound =>
      refine ⟨rfl, hstopped, ?_⟩
      rw [hrelease, htopic]
      exact .cons (.same _) (htrace.append (.refl _))

end Watch

end IbanWatch
