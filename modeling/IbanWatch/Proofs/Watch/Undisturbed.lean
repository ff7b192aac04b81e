import IbanWatch.Proofs.Watch.Signals

/-!
# A watch whose trigger is left alone

What a watch does with an outcome does not hang on the shutdown trigger.  To say so, a watch is
compared with its undisturbed copy: the same watch with the same emitter, only that no call of the
emitter touches the trigger.  Handling an outcome commutes with taking this copy, and a run does all
that the undisturbed copy does on a source that brings the same outcomes one after another.

## Main definitions

* `Watch.undisturbed`, with one for replies, emitters, occurrences, rows and reports.
* `PollReply.bringing` — the plain reply that brings an outcome.
* `Trace.handling` — what happens while outcomes are handled.

## Main results

* `handle_undisturbed` — handling an outcome commutes with taking the undisturbed copy.
* `mirrors_turns` — turns do what the turns of the undisturbed copy do.
* `stats_run`, `handling_run` — a run counts and handles what its turns do.
-/

namespace IbanWatch

open Shutdown

/-! ### Undisturbed copies -/

/-- The same answer, without a hand on the trigger. -/
def EmitterReply.undisturbed (reply : EmitterReply) : EmitterReply :=
  { reply with fires := false, drops := false }

/-- The same emitter, without a hand on the trigger. -/
def Emitter.undisturbed (e : Emitter) : Emitter :=
  { e with
    sends := e.sends.map EmitterReply.undisturbed
    flushes := e.flushes.map EmitterReply.undisturbed }

/-- The same occurrence, where an answer of the emitter does not touch the trigger. -/
def Occurrence.undisturbed : Occurrence → Occurrence
  | .answered reply => .answered reply.undisturbed
  | .call c => .call c
  | .polled reply seen => .polled reply seen
  | .counted refused => .counted refused
  | .log l => .log l

/-- The same row, where the answers of the emitter do not touch the trigger. -/
def Trace.undisturbed (t : Trace) : Trace := t.map Occurrence.undisturbed

/-- The same watch, with a trigger that nobody has touched and an emitter that will not. -/
def Watch.undisturbed (w : Watch) : Watch :=
  { w with signal := {}, emitter := w.emitter.undisturbed }

/-- The same report, of the undisturbed copy. -/
def Report.undisturbed {α : Type} (r : Report α) : Report α :=
  ⟨r.ending, r.watch.undisturbed, r.trace.undisturbed⟩

@[simp] theorem Trace.undisturbed_append (t u : Trace) :
    (t ++ u).undisturbed = t.undisturbed ++ u.undisturbed := List.map_append

/-! ### The emitter -/

namespace Emitter

theorem learn_undisturbed (e : Emitter) (reply : EmitterReply) :
    e.undisturbed.learn reply.undisturbed = (e.learn reply).undisturbed := by
  rw [learn, learn]
  cases h : reply.ending with
  | succeeds => simp only [EmitterReply.undisturbed, h, undisturbed]
  | fails f => simp only [EmitterReply.undisturbed, h, undisturbed]
  | unwinds => simp only [EmitterReply.undisturbed, h, undisturbed]

theorem headD_map_undisturbed (replies : List EmitterReply) :
    (replies.map EmitterReply.undisturbed).headD {} = (replies.headD {}).undisturbed := by
  cases replies <;> rfl

theorem takeSend_undisturbed (e : Emitter) :
    e.undisturbed.takeSend = (e.takeSend.1.undisturbed, e.takeSend.2.undisturbed) := by
  rw [takeSend, takeSend]
  simp only [← learn_undisturbed, ← headD_map_undisturbed]
  simp only [undisturbed, List.map_tail]

theorem takeFlush_undisturbed (e : Emitter) :
    e.undisturbed.takeFlush = (e.takeFlush.1.undisturbed, e.takeFlush.2.undisturbed) := by
  rw [takeFlush, takeFlush]
  simp only [← learn_undisturbed, ← headD_map_undisturbed]
  simp only [undisturbed, List.map_tail]

end Emitter

namespace Watch

/-! ### Handling an outcome -/

theorem sendReply_undisturbed (w : Watch) :
    w.undisturbed.sendReply = w.sendReply.undisturbed :=
  congrArg Prod.fst w.emitter.takeSend_undisturbed

theorem flushReply_undisturbed (w : Watch) :
    w.undisturbed.flushReply = w.flushReply.undisturbed :=
  congrArg Prod.fst w.emitter.takeFlush_undisturbed

theorem answered_undisturbed (w : Watch) (reply : EmitterReply) (e : Emitter) :
    w.undisturbed.answered reply.undisturbed e.undisturbed = (w.answered reply e).undisturbed := rfl

theorem send_undisturbed (w : Watch) (event : AuditEvent) :
    w.undisturbed.send event = (w.send event).undisturbed := by
  have hnext : w.undisturbed.emitter.takeSend.2 = w.emitter.takeSend.2.undisturbed :=
    congrArg Prod.snd w.emitter.takeSend_undisturbed
  rw [send_eq, send_eq, sendReply_undisturbed, hnext, answered_undisturbed]
  rfl

theorem flush_undisturbed (w : Watch) : w.undisturbed.flush = w.flush.undisturbed := by
  have hnext : w.undisturbed.emitter.takeFlush.2 = w.emitter.takeFlush.2.undisturbed :=
    congrArg Prod.snd w.emitter.takeFlush_undisturbed
  rw [flush_eq, flush_eq, flushReply_undisturbed, hnext, answered_undisturbed]
  rfl

theorem emit_undisturbed (w : Watch) (event : AuditEvent) :
    w.undisturbed.emit event = (w.emit event).undisturbed := by
  have hreply := sendReply_undisturbed w
  -- The copy gets the same answer, so it flushes just when the watch itself does.
  by_cases h : w.sendReply.ending = .succeeds
  · have hu : w.undisturbed.sendReply.ending = .succeeds := by rw [hreply]; exact h
    have hcount : (w.send event).watch.undisturbed.countAlert
        = (w.send event).watch.countAlert.undisturbed := rfl
    rw [emit_of_taken event h, emit_of_taken event hu, send_undisturbed]
    simp only [Report.undisturbed, hcount, flush_undisturbed, Trace.undisturbed_append]
  · have hu : w.undisturbed.sendReply.ending ≠ .succeeds := by rw [hreply]; exact h
    rw [emit_of_not_taken event h, emit_of_not_taken event hu, send_undisturbed]

theorem follow_undisturbed (w : Watch) (r : Reading) :
    w.undisturbed.follow r = (w.follow r).undisturbed := by
  cases r with
  | unread text => rfl
  | other event => rfl
  | valid event => rfl
  | suspect event reason =>
    -- Counting does not touch the trigger, and neither do the two lines before the alert.
    have hcount : w.undisturbed.countEvent = w.countEvent.undisturbed := rfl
    simp only [follow, hcount, emit_undisturbed]
    rfl

/-- **Handling an outcome commutes with taking the undisturbed copy**: whatever the emitter does to
the trigger, the calls, the answers, the lines and the counts are the same. -/
theorem handle_undisturbed (w : Watch) (o : Outcome) :
    w.undisturbed.handle o = (w.handle o).undisturbed := by
  cases o with
  | idle => rfl
  | partitionEnd => rfl
  | failure f => rfl
  | message m =>
    have hcount : w.undisturbed.countMessage = w.countMessage.undisturbed := rfl
    rw [handle_message, handle_message, hcount, follow_undisturbed]
    simp only [Report.undisturbed]
    cases (w.countMessage.follow m.reading).ending with
    | unwound => rfl
    | returned result =>
      have hlines : (failureLines m result).undisturbed = failureLines m result := by
        cases result <;> rfl
      simp only [Trace.undisturbed_append, hlines]
      rfl

end Watch

/-! ### The turns -/

/-- The plain reply that brings an outcome: it neither touches the trigger nor suspends. -/
def PollReply.bringing (o : Outcome) : PollReply := { ending := .brings o }

namespace Trace

/-- What happens while outcomes are handled. -/
def handling (t : Trace) : Trace := t.filter Occurrence.isInner

@[simp] theorem handling_append (t u : Trace) :
    (t ++ u).handling = t.handling ++ u.handling := List.filter_append _ _

theorem handling_of_isInner {t : Trace} (h : ∀ x ∈ t, x.isInner = true) : t.handling = t :=
  List.filter_eq_self.mpr h

theorem handling_of_isClosing {t : Trace} (h : ∀ x ∈ t, x.isClosing = true) :
    t.handling = [] := by
  rw [handling, List.filter_eq_nil_iff]
  intro x hx
  rw [isInner_of_isClosing (h x hx)]
  exact Bool.false_ne_true

end Trace

namespace Watch

theorem isInner_of_mem_undisturbed {t : Trace} (h : ∀ x ∈ t, x.isInner = true) :
    ∀ x ∈ t.undisturbed, x.isInner = true := by
  intro x hx
  obtain ⟨y, hy, rfl⟩ := List.mem_map.mp hx
  have hi := h y hy
  cases y with
  | call c => exact hi
  | polled reply seen => exact hi
  | answered reply => rfl
  | counted refused => exact hi
  | log l => exact hi

/-- A plain reply is polled and handled by the undisturbed copy as the outcome is handled by the
watch itself. -/
theorem turn_bringing {w : Watch} (o : Outcome) (hp : w.phase = .running) :
    w.undisturbed.turn (.bringing o) =
      match (w.handle o).ending with
      | .returned _ => ⟨.again, (w.handle o).watch.undisturbed,
          w.undisturbed.pollTrace (.bringing o) ++ (w.handle o).trace.undisturbed⟩
      | .unwound => ⟨.unwound, (w.handle o).watch.undisturbed,
          w.undisturbed.pollTrace (.bringing o) ++ (w.handle o).trace.undisturbed⟩ := by
  have hphase : w.undisturbed.phase = .running := hp
  -- The poll of a plain reply leaves the untouched trigger as it is, so the copy goes on as it was.
  have hhandle : (w.undisturbed.polled (.bringing o)).handle o = (w.handle o).undisturbed :=
    handle_undisturbed w o
  rw [turn, hphase]
  change w.undisturbed.pollTurn (.bringing o) = _
  rw [pollTurn]
  change (match ((w.undisturbed.polled (.bringing o)).handle o).ending with
    | .returned _ => _
    | .unwound => _) = _
  rw [hhandle]
  rfl

theorem turns_bringing_returned {w : Watch} {o : Outcome} (hp : w.phase = .running)
    (hr : (w.handle o).ending = .returned ()) (later : List PollReply) :
    w.undisturbed.turns (.bringing o :: later) =
      ⟨((w.handle o).watch.undisturbed.turns later).next,
        ((w.handle o).watch.undisturbed.turns later).watch,
        w.undisturbed.pollTrace (.bringing o) ++ (w.handle o).trace.undisturbed
          ++ ((w.handle o).watch.undisturbed.turns later).trace⟩ := by
  rw [turns, turn_bringing o hp, hr]
  rfl

theorem turns_bringing_unwound {w : Watch} {o : Outcome} (hp : w.phase = .running)
    (hr : (w.handle o).ending = .unwound) (later : List PollReply) :
    w.undisturbed.turns (.bringing o :: later) =
      ⟨.unwound, (w.handle o).watch.undisturbed,
        w.undisturbed.pollTrace (.bringing o) ++ (w.handle o).trace.undisturbed⟩ := by
  rw [turns, turn_bringing o hp, hr]
  rfl

/-- The turns `q` of an undisturbed copy handle what the turns `t` handle, in the same way and with
the same counts. -/
structure Mirrors (t q : Turn) : Prop where
  /-- What happened while outcomes were handled. -/
  handling : q.trace.handling = t.trace.handling.undisturbed
  /-- The counts. -/
  stats : q.watch.stats = t.watch.stats

/-- Turns that handle nothing are mirrored by an exhausted source. -/
theorem mirrors_nil {w : Watch} {t : Turn} (hp : w.phase = .running)
    (hh : t.trace.handling = []) (hs : t.watch.stats = w.stats) :
    Mirrors t (w.undisturbed.turns []) := by
  have hphase : w.undisturbed.phase = .running := hp
  -- An exhausted source is polled once, and fires the trigger, which nobody has touched.
  have hfirst : w.undisturbed.turn lastReply
      = ⟨.again, { w.undisturbed with signal := { fired := true } },
        w.undisturbed.pollTrace lastReply⟩ := by
    rw [turn, hphase]
    rfl
  -- The next turn finds it fired and leaves.
  have hlast : Watch.turn { w.undisturbed with signal := { fired := true } } lastReply
      = ⟨.leave,
        { w.undisturbed with signal := { fired := true }, phase := .shuttingDown }, []⟩ := by
    simp only [turn, hphase, if_true]
  have hturns : w.undisturbed.turns [] =
      ⟨.leave, { w.undisturbed with signal := { fired := true }, phase := .shuttingDown },
        w.undisturbed.pollTrace lastReply⟩ := by
    change (w.undisturbed.turn lastReply).andThen (·.turn lastReply) = _
    rw [hfirst, Turn.andThen]
    simp only [hlast, List.append_nil]
  rw [hturns]
  exact ⟨by rw [hh]; rfl, hs.symm⟩

theorem handling_pollTrace_append (w : Watch) (reply : PollReply) {t : Trace}
    (h : ∀ x ∈ t, x.isInner = true) : Trace.handling (w.pollTrace reply ++ t) = t := by
  rw [Trace.handling_append, Trace.handling_of_isInner h]
  rfl

/-- **Turns do what the turns of the undisturbed copy do** on a source that brings, one after
another, the outcomes that the polls brought. -/
theorem mirrors_turns {w : Watch} (script : List PollReply) (hp : w.phase = .running) :
    Mirrors (w.turns script)
      (w.undisturbed.turns ((w.turns script).trace.outcomes.map .bringing)) := by
  refine turns_induct (motive := fun w _ t => w.phase = .running →
    Mirrors t (w.undisturbed.turns (t.trace.outcomes.map .bringing))) ?_ ?_ w script hp
  · -- The last turn: if it handles nothing, the copy finds its source exhausted at once.
    intro w reply later hn hp
    have hc := w.turn_course reply
    generalize w.turn reply = turn at hc hn ⊢
    cases hc with
    | closed hp' => exact absurd hp hp'
    | asked => exact mirrors_nil hp rfl rfl
    | abandoned _ _ hs =>
      rw [outcomes_pollTrace (by rw [hs]; exact nofun)]
      exact mirrors_nil hp rfl rfl
    | unwound _ _ hs =>
      rw [outcomes_pollTrace (by rw [hs]; exact nofun)]
      exact mirrors_nil hp rfl rfl
    | handled => exact absurd rfl hn
    | @broken o _ _ hs hr =>
      have hi : ∀ x ∈ ((w.polled reply).handle o).trace, x.isInner = true := isInner_of_mem_handle
      have hq := turns_bringing_unwound (w := w.polled reply) hp hr []
      rw [outcomes_pollTrace_append hs]
      change Mirrors _ ((w.polled reply).undisturbed.turns _)
      rw [List.map_singleton, hq]
      refine ⟨?_, rfl⟩
      simp only [handling_pollTrace_append _ _ hi,
        handling_pollTrace_append _ _ (isInner_of_mem_undisturbed hi)]
  · intro w reply later rest hn ih hp
    have hphase := phase_of_again hn
    obtain ⟨o, -, -, hs, hr, hturn⟩ := turn_of_again hn
    have hi : ∀ x ∈ ((w.polled reply).handle o).trace, x.isInner = true := isInner_of_mem_handle
    -- The poll of the watch only moves its signal, so the copy is the same before and after it.
    have hq := turns_bringing_returned (w := w.polled reply) hp hr
      (rest.trace.outcomes.map .bringing)
    obtain ⟨hhandling, hstats⟩ := ih hphase
    rw [hturn] at hhandling hstats ⊢
    rw [Trace.outcomes_append, outcomes_pollTrace_append hs]
    change Mirrors _ ((w.polled reply).undisturbed.turns _)
    rw [List.map_append, List.map_singleton, List.singleton_append, hq]
    refine ⟨?_, hstats⟩
    change Trace.handling (_ ++ _) = (Trace.handling (_ ++ _)).undisturbed
    rw [Trace.handling_append, Trace.handling_append (_ ++ _), Trace.undisturbed_append,
      handling_pollTrace_append _ _ hi, hhandling,
      handling_pollTrace_append _ _ (isInner_of_mem_undisturbed hi)]

/-! ### The run -/

theorem stats_stop (w : Watch) : w.stop.1.stats = w.stats := by
  rw [stop]
  cases w.phase <;> rfl

/-- What a run has counted is what its turns have counted. -/
theorem stats_run (w : Watch) (script : List PollReply) :
    (w.run script).watch.stats = (w.turns script).watch.stats := by
  have hc := w.run_course script
  generalize w.run script = report at hc ⊢
  cases hc with
  | left => exact stats_stop _
  | unwound => exact stats_stop _

/-- A run ends as its turns do, and gives back the counts that they leave. -/
theorem ending_run_eq (w : Watch) (script : List PollReply) :
    (w.run script).ending = match (w.turns script).next with
      | .unwound => .unwound
      | .again | .leave => .returned (w.turns script).watch.stats := by
  have hc := w.run_course script
  generalize w.run script = report at hc ⊢
  cases hc with
  | left hn =>
    rw [hn, stats_stop]
  | unwound hn => rw [hn]

/-- The counts that a run gives back are those of the watch. -/
theorem stats_of_returned {w : Watch} {script : List PollReply} {stats : Stats}
    (h : (w.run script).ending = .returned stats) : stats = (w.run script).watch.stats := by
  have hc := w.run_course script
  generalize w.run script = report at hc h ⊢
  cases hc with
  | left hn => exact (Ending.returned.inj h).symm
  | unwound hn => cases h

/-- What a run does with outcomes is what its turns do with them. -/
theorem handling_run (w : Watch) (script : List PollReply) :
    (w.run script).trace.handling = (w.turns script).trace.handling ∧
      (w.run script).trace.outcomes = (w.turns script).trace.outcomes := by
  obtain ⟨closing, htrace, hclosing, -⟩ := w.trace_run script
  have hquiet : closing.Quiet := fun x hx => isPoll_of_isClosing (hclosing x hx)
  rw [htrace]
  constructor
  · change Trace.handling ((w.turns script).trace ++ closing) = _
    rw [Trace.handling_append, Trace.handling_of_isClosing hclosing, List.append_nil]
  · change Trace.outcomes ((w.turns script).trace ++ closing) = _
    rw [Trace.outcomes_append, hquiet.outcomes, List.append_nil]

end Watch

end IbanWatch
