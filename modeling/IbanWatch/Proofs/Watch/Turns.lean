import IbanWatch.Proofs.Watch.Handling

/-!
# The turns of a watch

A turn either ends the run or polls once, and what was polled is handled to its end.  Whatever holds
of the turns of a watch is proved along them: of the last turn, which is not followed by another,
and of a turn with all that comes after it.

## Main definitions

* `Watch.TurnCourse`, `Watch.RunCourse` — the courses that a turn and a run can take.
* `Watch.lastReply` — the reply of an exhausted source.
* `Occurrence.isClosing` — what may happen when a run ends.

## Main results

* `turn_course` — a turn takes one of the courses.
* `turn_of_again` — a turn that is followed by another has handled an outcome.
* `turn_of_brings` — a turn that polls an outcome handles it.
* `turns_induct` — induction along the turns of a watch.
* `turns_cons_of_again`, `turns_cons_of_ne_again` — the turns on a script, reply by reply.
* `run_course`, `trace_run` — a run is its turns, with what comes before and after them.
-/

namespace IbanWatch

open Shutdown

namespace Watch

/-! ### One turn -/

/-- The courses that a turn can take, each with all that comes of it. -/
inductive TurnCourse (w : Watch) (reply : PollReply) : Turn → Prop
  /-- The watch does not run any more. -/
  | closed (hp : w.phase ≠ .running) : TurnCourse w reply ⟨.leave, w, []⟩
  /-- The end was asked for before. -/
  | asked (hp : w.phase = .running) (hf : w.signal.fired = true) :
      TurnCourse w reply ⟨.leave, { w with phase := .shuttingDown }, []⟩
  /-- The end was asked for while the poll was suspended. -/
  | abandoned (hp : w.phase = .running) (hf : w.signal.fired = false)
      (hs : (reply.poll w.signal).1 = .abandoned) :
      TurnCourse w reply
        ⟨.leave, { w.polled reply with phase := .shuttingDown }, w.pollTrace reply⟩
  /-- The poll unwinds. -/
  | unwound (hp : w.phase = .running) (hf : w.signal.fired = false)
      (hs : (reply.poll w.signal).1 = .unwound) :
      TurnCourse w reply ⟨.unwound, w.polled reply, w.pollTrace reply⟩
  /-- The poll brings an outcome, which is handled. -/
  | handled {o : Outcome} (hp : w.phase = .running) (hf : w.signal.fired = false)
      (hs : (reply.poll w.signal).1 = .completed o)
      (hr : ((w.polled reply).handle o).ending = .returned ()) :
      TurnCourse w reply ⟨.again, ((w.polled reply).handle o).watch,
        w.pollTrace reply ++ ((w.polled reply).handle o).trace⟩
  /-- The poll brings an outcome, and handling it unwinds. -/
  | broken {o : Outcome} (hp : w.phase = .running) (hf : w.signal.fired = false)
      (hs : (reply.poll w.signal).1 = .completed o)
      (hr : ((w.polled reply).handle o).ending = .unwound) :
      TurnCourse w reply ⟨.unwound, ((w.polled reply).handle o).watch,
        w.pollTrace reply ++ ((w.polled reply).handle o).trace⟩

/-- **A turn takes one of the courses.** -/
theorem turn_course (w : Watch) (reply : PollReply) : TurnCourse w reply (w.turn reply) := by
  rw [turn]
  cases hp : w.phase with
  | shuttingDown => exact .closed (by rw [hp]; exact nofun)
  | stopped => exact .closed (by rw [hp]; exact nofun)
  | running =>
    cases hf : w.signal.fired with
    | true => exact .asked hp hf
    | false =>
      simp only [Bool.false_eq_true, if_false, pollTurn]
      -- The turn polls, and what it sees of the poll tells how it goes on.
      cases hs : (reply.poll w.signal).1 with
      | abandoned => exact .abandoned hp hf hs
      | unwound => exact .unwound hp hf hs
      | completed o =>
        simp only
        cases hr : ((w.polled reply).handle o).ending with
        | returned u => exact .handled hp hf hs hr
        | unwound => exact .broken hp hf hs hr

/-- **A turn that is followed by another** has polled an outcome and handled it to its end. -/
theorem turn_of_again {w : Watch} {reply : PollReply} (h : (w.turn reply).next = .again) :
    ∃ o, w.phase = .running ∧ w.signal.fired = false ∧ (reply.poll w.signal).1 = .completed o
      ∧ ((w.polled reply).handle o).ending = .returned ()
      ∧ w.turn reply = ⟨.again, ((w.polled reply).handle o).watch,
        w.pollTrace reply ++ ((w.polled reply).handle o).trace⟩ := by
  have hc := w.turn_course reply
  generalize w.turn reply = turn at hc h ⊢
  -- Of the six courses only one leads to another turn.
  cases hc with
  | closed => cases h
  | asked => cases h
  | abandoned => cases h
  | unwound => cases h
  | broken => cases h
  | @handled o hp hf hs hr => exact ⟨o, hp, hf, hs, hr, rfl⟩

theorem phase_of_again {w : Watch} {reply : PollReply} (h : (w.turn reply).next = .again) :
    (w.turn reply).watch.phase = .running := by
  obtain ⟨o, hp, -, -, -, hturn⟩ := turn_of_again h
  rw [hturn]
  exact (keeps_handle (w.polled reply) o).phase.trans hp

theorem turn_eq_pollTurn {w : Watch} (hp : w.phase = .running) (hf : w.signal.fired = false)
    (reply : PollReply) : w.turn reply = w.pollTurn reply := by
  rw [turn, hp, hf]
  rfl

/-- A turn that polls an outcome, without a hand on the trigger, handles it. -/
theorem turn_of_brings {w : Watch} (o : Outcome) (suspends : Bool) (hp : w.phase = .running)
    (hf : w.signal.fired = false) :
    w.turn { suspends, ending := .brings o } =
      let trace := w.pollTrace { suspends, ending := .brings o } ++ (w.handle o).trace
      match (w.handle o).ending with
      | .returned _ => ⟨.again, (w.handle o).watch, trace⟩
      | .unwound => ⟨.unwound, (w.handle o).watch, trace⟩ := by
  -- A suspended poll is not given up, since the trigger was not fired and is not touched.
  have hpoll : PollReply.poll { suspends, ending := .brings o } w.signal
      = (.completed o, w.signal) := by
    cases suspends <;> simp [PollReply.poll, moveTrigger, hf]
  have hpolled : w.polled { suspends, ending := .brings o } = w := by
    rw [polled, hpoll]
  have hopen := turn_eq_pollTurn hp hf { suspends, ending := .brings o }
  cases hend : (w.handle o).ending with
  | returned u => simp only [hopen, pollTurn, hpoll, hpolled, hend]
  | unwound => simp only [hopen, pollTurn, hpoll, hpolled, hend]

/-! ### All turns -/

/-- The reply of a source that has no more to give. -/
def lastReply : PollReply := { ending := .exhausted }

/-- A watch that polled an exhausted source does not go on after the next turn: either the end was
asked for by then, or nobody can ask for it and the poll unwinds. -/
theorem next_turn_lastReply {w : Watch} (h : (w.turn lastReply).next = .again)
    (reply : PollReply) : ((w.turn lastReply).watch.turn reply).next = .leave := by
  have hphase := phase_of_again h
  obtain ⟨o, -, hf, hs, -, hturn⟩ := turn_of_again h
  -- An exhausted source fires the trigger and brings nothing; if it cannot fire it, it unwinds.
  have hfired : (w.polled lastReply).signal.fired = true ∧ o = .idle := by
    simp only [polled, PollReply.poll, lastReply, moveTrigger] at hs ⊢
    by_cases hd : w.signal.dropped = true
    · simp [hf, hd] at hs
    · simp [hf, hd] at hs ⊢
      exact hs.symm
  obtain ⟨hfired, rfl⟩ := hfired
  have hsignal : (w.turn lastReply).watch.signal.fired = true := by
    rw [hturn]
    exact hfired
  rw [turn, hphase]
  simp only [hsignal, if_true]

/-- **Induction along the turns of a watch.**  What holds of every turn that is not followed by
another, and of every turn that is followed by turns of which it holds, holds of all turns on a
script.  After the script the source is exhausted, and two turns are all that it takes then. -/
theorem turns_induct {motive : Watch → List PollReply → Turn → Prop}
    (last : ∀ w reply later, (w.turn reply).next ≠ .again →
      motive w (reply :: later) (w.turn reply))
    (more : ∀ w reply later rest, (w.turn reply).next = .again →
      motive (w.turn reply).watch later rest →
        motive w (reply :: later)
          ⟨rest.next, rest.watch, (w.turn reply).trace ++ rest.trace⟩)
    (w : Watch) (script : List PollReply) :
    motive w (script ++ [lastReply, lastReply]) (w.turns script) := by
  induction script generalizing w with
  | nil =>
    rw [turns, Turn.andThen]
    cases hn : (w.turn { ending := .exhausted }).next with
    | leave => exact last w lastReply _ (by rw [lastReply, hn]; exact nofun)
    | unwound => exact last w lastReply _ (by rw [lastReply, hn]; exact nofun)
    | again =>
      -- The source has asked for the end by now, so the second of the two turns is the last.
      refine more w lastReply _ _ hn (last _ lastReply [] ?_)
      rw [next_turn_lastReply hn]
      exact nofun
  | cons reply script ih =>
    rw [turns, Turn.andThen]
    cases hn : (w.turn reply).next with
    | leave => exact last w reply _ (by rw [hn]; exact nofun)
    | unwound => exact last w reply _ (by rw [hn]; exact nofun)
    | again => exact more w reply _ _ hn (ih (w.turn reply).watch)

/-- The turns on a script end: they are left or unwound. -/
theorem next_turns_ne_again (w : Watch) (script : List PollReply) :
    (w.turns script).next ≠ .again :=
  turns_induct (motive := fun _ _ t => t.next ≠ .again)
    (fun _ _ _ h => h) (fun _ _ _ _ _ h => h) w script

/-! ### Turn by turn -/

theorem turns_nil (w : Watch) : w.turns [] = (w.turn lastReply).andThen (·.turn lastReply) := rfl

theorem turns_cons (w : Watch) (reply : PollReply) (script : List PollReply) :
    w.turns (reply :: script) = (w.turn reply).andThen (·.turns script) := rfl

/-- The turns after a turn that another follows. -/
theorem turns_cons_of_again {w : Watch} {reply : PollReply} (h : (w.turn reply).next = .again)
    (script : List PollReply) : w.turns (reply :: script)
      = ⟨((w.turn reply).watch.turns script).next, ((w.turn reply).watch.turns script).watch,
        (w.turn reply).trace ++ ((w.turn reply).watch.turns script).trace⟩ := by
  rw [turns_cons, Turn.andThen, h]

/-- A turn that no other follows is all. -/
theorem turns_cons_of_ne_again {w : Watch} {reply : PollReply} (h : (w.turn reply).next ≠ .again)
    (script : List PollReply) : w.turns (reply :: script) = w.turn reply := by
  rw [turns_cons, Turn.andThen]
  cases hn : (w.turn reply).next with
  | leave => rfl
  | unwound => rfl
  | again => exact absurd hn h

/-- A watch that does not go on takes no turn, whatever the script. -/
theorem turns_of_over {w : Watch} (h : ¬ (w.phase = .running ∧ w.signal.fired = false)) :
    ∃ v, ∀ script, w.turns script = ⟨.leave, v, []⟩ := by
  have hturn : ∃ v, ∀ reply, w.turn reply = ⟨.leave, v, []⟩ := by
    cases hp : w.phase with
    | shuttingDown => exact ⟨w, fun reply => by rw [turn, hp]⟩
    | stopped => exact ⟨w, fun reply => by rw [turn, hp]⟩
    | running =>
      have hf : w.signal.fired = true := by
        cases hf : w.signal.fired with
        | true => rfl
        | false => exact absurd ⟨hp, hf⟩ h
      exact ⟨{ w with phase := .shuttingDown }, fun reply => by simp only [turn, hp, hf, if_true]⟩
  -- One turn that leaves is all that the turns on any script are.
  obtain ⟨v, hv⟩ := hturn
  refine ⟨v, fun script => ?_⟩
  cases script with
  | nil =>
    rw [turns_nil, hv]
    rfl
  | cons reply script =>
    rw [turns_cons, hv]
    rfl

/-! ### The run -/

@[simp] theorem phase_stop (w : Watch) : w.stop.1.phase = .stopped := by
  rw [stop]
  cases hp : w.phase with
  | running => rfl
  | shuttingDown => rfl
  | stopped => exact hp

/-- A watch that was stopped has released its source already. -/
theorem drop_of_stopped {w : Watch} (h : w.phase = .stopped) : w.drop = (w, []) := by
  rw [drop, stop, h]

/-- A watch that was not stopped before releases its source. -/
theorem stop_snd_of_not_stopped {w : Watch} (h : w.phase ≠ .stopped) :
    w.stop.2 = [.call .close] := by
  rw [stop]
  cases hp : w.phase with
  | running => rfl
  | shuttingDown => rfl
  | stopped => exact absurd hp h

/-- The courses that a run can take after its turns, each with all that comes of it. -/
inductive RunCourse (w : Watch) (all : Turn) : Report Stats → Prop
  /-- The run ends since it was asked to. -/
  | left (hn : all.next = .leave) :
      RunCourse w all ⟨.returned all.watch.stop.1.stats, all.watch.stop.1,
        .log (.running w.settings.alertTopic) :: (all.trace
          ++ .log .stopping :: (all.watch.stop.2 ++ [.counted all.watch.stop.1.emitter.rejected,
            .log (.stopped all.watch.stop.1.stats)]))⟩
  /-- The run is unwound. -/
  | unwound (hn : all.next = .unwound) :
      RunCourse w all ⟨.unwound, all.watch.stop.1,
        .log (.running w.settings.alertTopic) :: (all.trace ++ all.watch.stop.2)⟩

/-- **A run is its turns, with what comes before and after them.** -/
theorem run_course (w : Watch) (script : List PollReply) :
    RunCourse w (w.turns script) (w.run script) := by
  rw [run]
  cases hn : (w.turns script).next with
  | again => exact absurd hn (w.next_turns_ne_again script)
  | leave =>
    have hd := drop_of_stopped (w.turns script).watch.phase_stop
    simpa [finish, hd] using RunCourse.left (w := w) hn
  | unwound => simpa [drop] using RunCourse.unwound (w := w) hn

end Watch

/-! ### Before and after the turns -/

/-- What may happen when a run ends. -/
def Occurrence.isClosing : Occurrence → Bool
  | .call .close | .counted _ | .log .stopping | .log (.stopped _) => true
  | .call (.poll _) | .call (.send _ _ _) | .call (.flush _) | .polled _ _ | .answered _ => false
  | .log _ => false

theorem isPoll_of_isClosing {x : Occurrence} (h : x.isClosing = true) : x.isPoll = false := by
  cases x with
  | call c => cases c <;> first | rfl | cases h
  | polled reply seen => cases h
  | answered reply => rfl
  | counted refused => rfl
  | log l => rfl

theorem isInner_of_isClosing {x : Occurrence} (h : x.isClosing = true) : x.isInner = false := by
  cases x with
  | call c => cases c <;> first | rfl | cases h
  | polled reply seen => rfl
  | answered reply => cases h
  | counted refused => rfl
  | log l => cases l <;> first | rfl | cases h

namespace Watch

theorem isClosing_of_mem_stop {w : Watch} : ∀ x ∈ w.stop.2, x.isClosing = true := by
  by_cases h : w.phase = .stopped
  · rw [← drop, drop_of_stopped h]
    exact fun x hx => absurd hx List.not_mem_nil
  · rw [stop_snd_of_not_stopped h]
    intro x hx
    rw [List.mem_singleton.mp hx]
    rfl

/-- **What happens in a run**: its beginning is told, the turns are taken, and the run is closed,
which is when the source is released. -/
theorem trace_run (w : Watch) (script : List PollReply) :
    ∃ closing : Trace, (w.run script).trace
        = .log (.running w.settings.alertTopic) :: ((w.turns script).trace ++ closing)
      ∧ (∀ x ∈ closing, x.isClosing = true)
      ∧ closing.calls = (w.turns script).watch.stop.2.calls := by
  have hc := w.run_course script
  generalize w.run script = report at hc ⊢
  cases hc with
  | left hn =>
    refine ⟨_, rfl, ?_, ?_⟩
    -- The end of a run is told, the source released, the refused alerts are read, and the counts
    -- told.
    · rw [List.forall_mem_cons]
      refine ⟨rfl, fun x hx => ?_⟩
      rcases List.mem_append.mp hx with hx | hx
      · exact isClosing_of_mem_stop x hx
      · simp only [List.mem_cons, List.not_mem_nil, or_false] at hx
        rcases hx with rfl | rfl
        · rfl
        · rfl
    · change Trace.calls ([.log .stopping] ++ (_ ++ [_, _])) = _
      rw [Trace.calls_append, Trace.calls_append]
      exact List.append_nil _
  | unwound hn => exact ⟨_, rfl, isClosing_of_mem_stop, rfl⟩

end Watch

end IbanWatch
