import IbanWatch.Proofs.Watch.Release
import IbanWatch.Proofs.Watch.Undisturbed

/-!
# How a run is ended

Asking for the end never cuts a message short.  A watch looks at its signal before each poll, and
while a poll is suspended; whatever a poll has brought is handled as if nobody had asked.  Only a
trigger that was fired ends a run: one that was dropped unfired asks for nothing.

## Main definitions

* `PollReply.SuspendsFired` — the poll is suspended while the trigger is fired.
* `Trace.LeavesLast` — nothing happens after a poll that was given up.
* `Occurrence.unwinds` — a poll or a call of the emitter that unwinds.
* `Watch.HeedsShutdown` — all that a run does about the shutdown trigger.

## Main results

* `poll_eq_abandoned_iff` — a poll is given up just when it is suspended while the trigger is fired.
* `next_turns_eq_unwound_iff` — the turns are unwound only by a poll or a call that unwinds.
* `fired_of_next_turns` — they are left only when the trigger was fired.
* `heedsShutdown_run` — every run of a watch heeds the shutdown trigger.
-/

namespace IbanWatch

open Time Shutdown

/-! ### Polls that are given up -/

/-- The poll is suspended while the trigger is fired: it suspends after the trigger was fired, or
fires the trigger itself and waits. -/
def PollReply.SuspendsFired (reply : PollReply) (s : Signal) : Prop :=
  (reply.suspends = true ∧ (moveTrigger reply.fires reply.drops s).fired = true)
    ∨ (reply.ending = .waits ∧ (moveTrigger reply.fires reply.drops s).fire.fired = true)

/-- **A poll is given up just when it is suspended while the trigger is fired**, whatever it would
have brought. -/
theorem PollReply.poll_eq_abandoned_iff {reply : PollReply} {s : Signal} :
    (reply.poll s).1 = .abandoned ↔ reply.SuspendsFired s := by
  rw [PollReply.poll, PollReply.SuspendsFired]
  generalize moveTrigger reply.fires reply.drops s = moved
  -- A poll is suspended on its way, or else it can be so only at its end.
  by_cases hf : (reply.suspends && moved.fired) = true
  · rw [if_pos hf]
    exact ⟨fun _ => .inl (Bool.and_eq_true_iff.mp hf), fun _ => rfl⟩
  · have hno : ¬(reply.suspends = true ∧ moved.fired = true) :=
      fun h => hf (Bool.and_eq_true_iff.mpr h)
    rw [if_neg hf, or_iff_right hno]
    cases reply.ending with
    | brings o => simp
    | unwinds => simp
    | waits => by_cases hm : moved.fire.fired = true <;> simp only [hm] <;> simp
    | exhausted => by_cases hm : moved.fire.fired = true <;> simp only [hm] <;> simp

theorem PollReply.fired_of_suspendsFired {reply : PollReply} {s : Signal}
    (h : reply.SuspendsFired s) : (reply.poll s).2.fired = true := by
  rw [PollReply.poll]
  rw [PollReply.SuspendsFired] at h
  generalize moveTrigger reply.fires reply.drops s = moved at h ⊢
  by_cases hf : (reply.suspends && moved.fired) = true
  · rw [if_pos hf]
    exact (Bool.and_eq_true_iff.mp hf).2
  · rw [if_neg hf]
    rcases h with h | ⟨hw, hm⟩
    · exact absurd (Bool.and_eq_true_iff.mpr h) hf
    · simp only [hw, if_pos hm]
      exact hm

/-- Nothing happens after a poll that was given up. -/
def Trace.LeavesLast (t : Trace) : Prop :=
  ∀ before reply after, t = before ++ .polled reply .abandoned :: after → after = []

namespace Trace

theorem leavesLast_of_not_mem {t : Trace} (h : ∀ reply, .polled reply .abandoned ∉ t) :
    LeavesLast t := by
  intro before reply after ht
  refine absurd ?_ (h reply)
  rw [ht]
  exact List.mem_append_right _ List.mem_cons_self

theorem LeavesLast.append {t u : Trace} (h : ∀ reply, .polled reply .abandoned ∉ t)
    (hu : LeavesLast u) : LeavesLast (t ++ u) := by
  intro before reply after hsplit
  rcases List.append_eq_append_iff.mp hsplit with ⟨middle, rfl, hafter⟩ | ⟨middle, ht, hafter⟩
  · exact hu middle reply after hafter
  -- A poll that was given up cannot lie in the first row, so it lies at the head of the second.
  · cases middle with
    | nil => exact hu [] reply after hafter.symm
    | cons x middle =>
      obtain ⟨rfl, -⟩ := List.cons_eq_cons.mp hafter
      refine absurd ?_ (h reply)
      rw [ht]
      exact List.mem_append_right _ List.mem_cons_self

end Trace

/-! ### Unwinding -/

/-- Whether the occurrence is a poll or an answer of the emitter that unwinds the watch. -/
def Occurrence.unwinds : Occurrence → Bool
  | .polled _ .unwound => true
  | .polled _ .abandoned | .polled _ (.completed _) => false
  | .answered reply => reply.ending = .unwinds
  | .call _ | .counted _ | .log _ => false

namespace Watch

theorem ending_emit_eq_unwound_iff (w : Watch) (event : AuditEvent) :
    (w.emit event).ending = .unwound ↔ ∃ x ∈ (w.emit event).trace, x.unwinds = true := by
  have hend : ∀ e : CallEnd, e.ending = .unwound ↔ e = .unwinds := by
    intro e
    cases e <;> simp [CallEnd.ending]
  -- Of a call that was taken only the flush can unwind.
  by_cases h : w.sendReply.ending = .succeeds
  · rw [emit_of_taken event h]
    simp [send_eq, flush_eq, Occurrence.unwinds, h, hend]
  · rw [emit_of_not_taken event h]
    simp [send_eq, Occurrence.unwinds, hend]

theorem ending_follow_eq_unwound_iff (w : Watch) (r : Reading) :
    (w.follow r).ending = .unwound ↔ ∃ x ∈ (w.follow r).trace, x.unwinds = true := by
  cases r with
  | unread text => simp [follow]
  | other event => simp [follow, Occurrence.unwinds]
  | valid event => simp [follow, Occurrence.unwinds]
  | suspect event reason =>
    have h := ending_emit_eq_unwound_iff w.countEvent event
    have hmap : ∀ e : Ending (Except Failure Unit),
        e.map (·.map fun _ => Verdict.alertRaised) = .unwound ↔ e = .unwound := by
      intro e
      cases e <;> simp [Ending.map]
    simp only [follow, hmap, h, List.mem_cons]
    constructor
    · rintro ⟨x, hx, hu⟩
      exact ⟨x, .inr (.inr hx), hu⟩
    -- The two lines in front of the alert unwind nothing.
    · rintro ⟨x, rfl | rfl | hx, hu⟩
      · cases hu
      · cases hu
      · exact ⟨x, hx, hu⟩

/-- Handling an outcome unwinds only if a call of the emitter does. -/
theorem ending_handle_eq_unwound_iff (w : Watch) (o : Outcome) :
    (w.handle o).ending = .unwound ↔ ∃ x ∈ (w.handle o).trace, x.unwinds = true := by
  cases o with
  | idle => simp [handle]
  | partitionEnd => simp [handle, Occurrence.unwinds]
  | failure f => simp [handle, Occurrence.unwinds]
  | message m =>
    have h := ending_follow_eq_unwound_iff w.countMessage m.reading
    rw [handle_message]
    cases he : (w.countMessage.follow m.reading).ending with
    | unwound => simpa [he] using h
    | returned result =>
      -- Nothing unwound before, and the line that tells of a failure does not unwind either.
      rw [he] at h
      constructor
      · intro hu
        cases hu
      · rintro ⟨x, hx, hu⟩
        rcases List.mem_append.mp hx with hx | hx
        · cases h.mpr ⟨x, hx, hu⟩
        · cases result with
          | ok verdict => cases hx
          | error f =>
            rw [List.mem_singleton.mp hx] at hu
            cases hu

theorem next_turn_eq_unwound_iff (w : Watch) (reply : PollReply) :
    (w.turn reply).next = .unwound ↔ ∃ x ∈ (w.turn reply).trace, x.unwinds = true := by
  have hc := w.turn_course reply
  have hpoll : (∃ x ∈ w.pollTrace reply, x.unwinds = true)
      ↔ (reply.poll w.signal).1 = .unwound := by
    simp only [pollTrace, List.mem_cons, List.not_mem_nil, or_false, exists_eq_or_imp,
      exists_eq_left]
    cases (reply.poll w.signal).1 <;> simp [Occurrence.unwinds]
  -- Behind a poll that came to its end, only the handling of its outcome can unwind.
  have hhandle : ∀ o, (reply.poll w.signal).1 = .completed o →
      ((∃ x ∈ w.pollTrace reply ++ ((w.polled reply).handle o).trace, x.unwinds = true)
        ↔ ((w.polled reply).handle o).ending = .unwound) := by
    intro o hs
    rw [ending_handle_eq_unwound_iff]
    simp only [List.mem_append, or_and_right, exists_or]
    rw [hpoll, hs]
    simp only [reduceCtorEq, false_or]
  generalize w.turn reply = turn at hc ⊢
  cases hc with
  | closed => simp
  | asked => simp
  | abandoned hp hf hs => simp only [hpoll, hs, reduceCtorEq]
  | unwound hp hf hs => rw [hpoll]; exact ⟨fun _ => hs, fun _ => rfl⟩
  | handled hp hf hs hr => simp only [hhandle _ hs, hr, reduceCtorEq]
  | broken hp hf hs hr => rw [hhandle _ hs]; exact ⟨fun _ => hr, fun _ => rfl⟩

/-- **The turns are unwound only by a poll or a call that unwinds.** -/
theorem next_turns_eq_unwound_iff (w : Watch) (script : List PollReply) :
    (w.turns script).next = .unwound ↔ ∃ x ∈ (w.turns script).trace, x.unwinds = true :=
  turns_induct (motive := fun _ _ t => t.next = .unwound ↔ ∃ x ∈ t.trace, x.unwinds = true)
    (fun w reply _ _ => next_turn_eq_unwound_iff w reply)
    (fun w reply _ rest hn ih => by
      have hfirst : ¬ ∃ x ∈ (w.turn reply).trace, x.unwinds = true := by
        rw [← next_turn_eq_unwound_iff, hn]
        exact nofun
      simp only [List.mem_append, or_and_right, exists_or]
      rw [ih]
      exact ⟨.inr, fun h => h.resolve_left hfirst⟩)
    w script

/-! ### Asking for the end -/

/-- **The turns are left only when the trigger was fired.** -/
theorem fired_of_next_turns {w : Watch} (script : List PollReply) (hp : w.phase = .running)
    (hn : (w.turns script).next = .leave) : (w.turns script).watch.signal.fired = true := by
  refine turns_induct (motive := fun w _ t => w.phase = .running → t.next = .leave →
    t.watch.signal.fired = true) ?_ ?_ w script hp hn
  · intro w reply later _ hp hn
    have hc := w.turn_course reply
    generalize w.turn reply = turn at hc hn ⊢
    -- The last turn leaves since the trigger was fired before it, or while its poll was suspended.
    cases hc with
    | closed hp' => exact absurd hp hp'
    | asked _ hf => exact hf
    | abandoned _ _ hs =>
      exact PollReply.fired_of_suspendsFired (PollReply.poll_eq_abandoned_iff.mp hs)
    | unwound => cases hn
    | handled => cases hn
    | broken => cases hn
  · intro w reply later rest hagain ih hp hn
    exact ih (phase_of_again hagain) hn

/-- A watch that was asked for the end before it runs takes no turn. -/
theorem turns_of_fired {w : Watch} (script : List PollReply) (hp : w.phase = .running)
    (hf : w.signal.fired = true) :
    w.turns script = ⟨.leave, { w with phase := .shuttingDown }, []⟩ := by
  have hturn : ∀ reply, w.turn reply = ⟨.leave, { w with phase := .shuttingDown }, []⟩ := by
    intro reply
    rw [turn, hp]
    simp only [hf, if_true]
  cases script with
  | nil => rw [turns, hturn, Turn.andThen]
  | cons reply script => rw [turns, hturn, Turn.andThen]

theorem abandoned_not_mem_of_isInner {t : Trace} (h : ∀ x ∈ t, x.isInner = true)
    (reply : PollReply) : .polled reply .abandoned ∉ t := by
  intro hx
  cases h _ hx

theorem abandoned_not_mem_pollTrace {w : Watch} {reply : PollReply}
    (hs : (reply.poll w.signal).1 ≠ .abandoned) :
    ∀ r, .polled r .abandoned ∉ w.pollTrace reply := by
  intro r hx
  simp only [pollTrace, List.mem_cons, List.not_mem_nil, or_false] at hx
  rcases hx with hx | hx
  · cases hx
  · exact hs (Occurrence.polled.inj hx).2.symm

theorem abandoned_not_mem_of_completed {w : Watch} {reply : PollReply} {o : Outcome}
    (hs : (reply.poll w.signal).1 = .completed o) :
    ∀ r, .polled r .abandoned ∉ w.pollTrace reply ++ ((w.polled reply).handle o).trace := by
  intro r hx
  rcases List.mem_append.mp hx with hx | hx
  · refine abandoned_not_mem_pollTrace ?_ r hx
    rw [hs]
    simp
  · exact abandoned_not_mem_of_isInner isInner_of_mem_handle r hx

theorem leavesLast_turn (w : Watch) (reply : PollReply) : (w.turn reply).trace.LeavesLast := by
  have hc := w.turn_course reply
  generalize w.turn reply = turn at hc ⊢
  cases hc with
  | closed => exact Trace.leavesLast_of_not_mem fun _ => List.not_mem_nil
  | asked => exact Trace.leavesLast_of_not_mem fun _ => List.not_mem_nil
  | abandoned hp hf hs =>
    refine Trace.LeavesLast.append (t := [.call _]) (fun r hx => ?_) ?_
    · cases List.mem_singleton.mp hx
    · intro before r after h
      -- A turn that gives up its poll has nothing behind it: the row ends there.
      cases before with
      | nil => exact (List.cons_eq_cons.mp h).2.symm
      | cons x before =>
        have htail := (List.cons_eq_cons.mp h).2
        cases before <;> cases htail
  | unwound hp hf hs =>
    refine Trace.leavesLast_of_not_mem (abandoned_not_mem_pollTrace ?_)
    rw [hs]
    simp
  | handled hp hf hs => exact Trace.leavesLast_of_not_mem (abandoned_not_mem_of_completed hs)
  | broken hp hf hs => exact Trace.leavesLast_of_not_mem (abandoned_not_mem_of_completed hs)

/-- **Nothing happens in the turns after a poll that was given up.** -/
theorem leavesLast_turns (w : Watch) (script : List PollReply) :
    (w.turns script).trace.LeavesLast :=
  turns_induct (motive := fun _ _ t => t.trace.LeavesLast)
    (fun w reply _ _ => leavesLast_turn w reply)
    (fun w reply _ _ hn ih => by
      obtain ⟨o, -, -, hs, -, hturn⟩ := turn_of_again hn
      rw [hturn]
      exact Trace.LeavesLast.append (abandoned_not_mem_of_completed hs) ih)
    w script

/-! ### The run -/

theorem signal_of_isClosing {t : Trace} (h : ∀ x ∈ t, x.isClosing = true) (s : Signal) :
    Trace.signal s t = s := by
  induction t generalizing s with
  | nil => rfl
  | cons x t ih =>
    obtain ⟨hx, ht⟩ := List.forall_mem_cons.mp h
    rw [Trace.signal_cons, ih ht]
    cases x with
    | call c => rfl
    | log l => rfl
    | counted refused => rfl
    | polled reply seen => cases hx
    | answered reply => cases hx

theorem signal_run (w : Watch) (script : List PollReply) :
    Trace.signal w.signal (w.run script).trace = (w.turns script).watch.signal := by
  obtain ⟨closing, htrace, hclosing, -⟩ := w.trace_run script
  rw [htrace]
  change Trace.signal w.signal ((w.turns script).trace ++ closing) = _
  rw [Trace.signal_append, signal_of_isClosing hclosing, signal_turns]

theorem ending_run_eq_unwound_iff (w : Watch) (script : List PollReply) :
    (w.run script).ending = .unwound ↔ ∃ x ∈ (w.run script).trace, x.unwinds = true := by
  obtain ⟨closing, htrace, hclosing, -⟩ := w.trace_run script
  have hclose : ∀ x ∈ closing, ¬ x.unwinds = true := by
    intro x hx hu
    have hc := hclosing x hx
    cases x with
    | call c => cases hu
    | log l => cases hu
    | counted refused => cases hu
    | polled reply seen => cases hc
    | answered reply => cases hc
  -- So what unwinds in a run unwinds in its turns, and they are left or unwound alike.
  have hturns : (∃ x ∈ (w.run script).trace, x.unwinds = true)
      ↔ ∃ x ∈ (w.turns script).trace, x.unwinds = true := by
    rw [htrace]
    constructor
    · rintro ⟨x, hx, hu⟩
      rcases List.mem_cons.mp hx with rfl | hx
      · cases hu
      · rcases List.mem_append.mp hx with hx | hx
        · exact ⟨x, hx, hu⟩
        · exact absurd hu (hclose x hx)
    · rintro ⟨x, hx, hu⟩
      exact ⟨x, List.mem_cons_of_mem _ (List.mem_append_left _ hx), hu⟩
  rw [hturns, ← next_turns_eq_unwound_iff]
  have hc := w.run_course script
  generalize w.run script = report at hc ⊢
  cases hc with
  | left hn => rw [hn]; exact ⟨nofun, nofun⟩
  | unwound hn => exact ⟨fun _ => hn, fun _ => rfl⟩

/-- **A run gives its counts back only when the trigger was fired.** -/
theorem fired_of_returned {w : Watch} {script : List PollReply} {stats : Stats}
    (hp : w.phase = .running) (h : (w.run script).ending = .returned stats) :
    (Trace.signal w.signal (w.run script).trace).fired = true := by
  rw [signal_run]
  have hc := w.run_course script
  generalize w.run script = report at hc h ⊢
  cases hc with
  | left hn => exact fired_of_next_turns script hp hn
  | unwound hn => cases h

/-- **A watch that was asked for the end before it runs only releases its source.** -/
theorem run_of_fired {w : Watch} (script : List PollReply) (hp : w.phase = .running)
    (hf : w.signal.fired = true) :
    (w.run script).trace.calls = [.close] ∧ (w.run script).ending = .returned w.stats := by
  have hturns := turns_of_fired script hp hf
  have hphase : w.phase ≠ .stopped := by
    rw [hp]
    exact nofun
  refine ⟨?_, ?_⟩
  · rw [calls_run script hphase, hturns]
    rfl
  -- No turn is taken, and so the counts are those of before.
  · have hc := w.run_course script
    rw [hturns] at hc
    generalize w.run script = report at hc ⊢
    cases hc with
    | left hn => rfl
    | unwound hn => cases hn

/-- **After a poll that was given up a run only releases its source.** -/
theorem after_abandoned {w : Watch} {script : List PollReply} (hp : w.phase = .running)
    {before after : Trace} {reply : PollReply}
    (h : (w.run script).trace = before ++ .polled reply .abandoned :: after) :
    after.calls = [.close] ∧ after.handling = [] := by
  obtain ⟨closing, htrace, hclosing, hcalls⟩ := w.trace_run script
  have hphase : w.phase ≠ .stopped := by
    rw [hp]
    exact nofun
  have hmem : ∀ r, .polled r .abandoned ∉ closing := by
    intro r hx
    cases hclosing _ hx
  have hafter : after = closing := by
    rw [htrace] at h
    cases before with
    | nil => cases (List.cons_eq_cons.mp h).1
    | cons x before =>
      have htail := (List.cons_eq_cons.mp h).2
      -- The poll lies in the turns, as nothing is polled while the run is closed.
      rcases List.append_eq_append_iff.mp htail with ⟨middle, -, hc⟩ | ⟨middle, ht, hc⟩
      · refine absurd ?_ (hmem reply)
        rw [hc]
        exact List.mem_append_right _ List.mem_cons_self
      · cases middle with
        | nil =>
          refine absurd ?_ (hmem reply)
          rw [← List.nil_append closing, ← hc]
          exact List.mem_cons_self
        | cons y middle =>
          obtain ⟨rfl, rfl⟩ := List.cons_eq_cons.mp hc
          rw [leavesLast_turns w script before reply middle ht]
          rfl
  rw [hafter, hcalls, stop_snd_of_not_stopped (phase_turns script hphase)]
  exact ⟨rfl, Trace.handling_of_isClosing hclosing⟩

/-- All that a run does about the shutdown trigger.  The trigger may be fired before the run, by any
poll and by any call of the emitter, and it may be dropped likewise; `Trace.signal` tells what has
become of it after a part of the run. -/
structure HeedsShutdown (w : Watch) (script : List PollReply) : Prop where
  /-- The trigger stays fired, and dropping it then changes nothing. -/
  sticky : ∀ before after, (w.run script).trace = before ++ after →
    (Trace.signal w.signal before).fired = true →
      (Trace.signal w.signal (w.run script).trace).fired = true
  /-- No poll is begun once the trigger was fired. -/
  unpolled : ∀ before timeout after,
    (w.run script).trace = before ++ .call (.poll timeout) :: after →
      (Trace.signal w.signal before).fired = false
  /-- If it was fired before the run, the source is released and nothing else is called. -/
  unbegun : w.signal.fired = true →
    (w.run script).trace.calls = [.close] ∧ (w.run script).ending = .returned w.stats
  /-- A poll is given up just when it is suspended while the trigger is fired. -/
  abandoned_iff : ∀ before reply seen after,
    (w.run script).trace = before ++ .polled reply seen :: after →
      (seen = .abandoned ↔ reply.SuspendsFired (Trace.signal w.signal before))
  /-- A poll that was given up is followed by the release of the source only: its outcome is not
  handled. -/
  abandoned : ∀ (before : Trace) (reply : PollReply) (after : Trace),
    (w.run script).trace = before ++ .polled reply .abandoned :: after →
      (Trace.signal w.signal (before ++ [.polled reply .abandoned])).fired = true
        ∧ after.calls = [.close] ∧ after.handling = []
  /-- Every outcome that a poll did bring is handled as if nobody had touched the trigger: the calls
  of the emitter, its answers, the lines and all counts are those of the undisturbed copy on a
  source that just brings these outcomes. -/
  completed : let plain := w.undisturbed.run ((w.run script).trace.outcomes.map .bringing)
    plain.trace.handling = (w.run script).trace.handling.undisturbed
      ∧ plain.watch.stats = (w.run script).watch.stats
  /-- The run gives its counts back only if the trigger was fired. -/
  returned : ∀ stats, (w.run script).ending = .returned stats →
    stats = (w.run script).watch.stats
      ∧ (Trace.signal w.signal (w.run script).trace).fired = true
  /-- And it does so, unless a poll or a call of the emitter unwinds. -/
  unwound_iff : (w.run script).ending = .unwound ↔
    ∃ x ∈ (w.run script).trace, x.unwinds = true

/-- A watch that is running heeds the trigger. -/
theorem heedsShutdown_of_running {w : Watch} (script : List PollReply) (hp : w.phase = .running) :
    w.HeedsShutdown script where
  sticky before after ht hf := by
    rw [ht, Trace.signal_append]
    exact Trace.fired_signal hf after
  unpolled before timeout after ht := heeds_run w script before _ after ht
  unbegun hf := run_of_fired script hp hf
  abandoned_iff before reply seen after ht := by
    have hseen : seen = (reply.poll (Trace.signal w.signal before)).1 :=
      heeds_run w script before _ after ht
    rw [hseen]
    exact PollReply.poll_eq_abandoned_iff
  abandoned before reply after ht := by
    have hseen : Polled.abandoned = (reply.poll (Trace.signal w.signal before)).1 :=
      heeds_run w script before _ after ht
    refine ⟨?_, after_abandoned hp ht⟩
    rw [Trace.signal_append]
    exact PollReply.fired_of_suspendsFired (PollReply.poll_eq_abandoned_iff.mp hseen.symm)
  completed := by
    obtain ⟨hhandling, hout⟩ := handling_run w script
    -- What a run handles is what its turns handle, and these are mirrored by the copy.
    have hmirrors := mirrors_turns script hp
    rw [← hout] at hmirrors
    intro plain
    have hplain : plain.trace.handling = _ := (handling_run w.undisturbed _).1
    constructor
    · rw [hplain, hmirrors.handling, hhandling]
    · rw [stats_run, hmirrors.stats, stats_run]
  returned stats h := ⟨stats_of_returned h, fired_of_returned hp h⟩
  unwound_iff := ending_run_eq_unwound_iff w script

/-- **Every run heeds the trigger**, whatever was done to the watch from outside before it. -/
theorem heedsShutdown_run (settings : Settings) (signal : Signal) (emitter : Emitter)
    (clock : Nat → Instant) (requests : List Request) (script : List PollReply) :
    ((fresh settings signal emitter clock).answers requests).2.HeedsShutdown script :=
  heedsShutdown_of_running script (phase_answers _ requests)

end Watch

end IbanWatch
