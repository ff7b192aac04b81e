import IbanWatch.Proofs.Watch.Turns

/-!
# A watch and its shutdown signal

What happened tells what has become of the trigger, and the signal that a watch listens to is always
this one.  With that, every row of a run heeds the signal: it has a poll only where the end was not
asked for before, and each poll is seen as its reply ends under the signal of that moment.

## Main definitions

* `Trace.Heeds` — the row heeds the signal at every moment.
* `Trace.replies` — the replies that were asked for.

## Main results

* `signal_turns` — the signal after the turns is the one that what happened tells.
* `heeds_turns`, `heeds_run` — turns and runs heed the signal.
* `replies_run` — a run asks for the replies of its script in order.
-/

namespace IbanWatch

open Shutdown

/-! ### The trigger -/

@[simp] theorem fired_moveTrigger (fires drops : Bool) (s : Signal) :
    (moveTrigger fires drops s).fired = (s.fired || (fires && !s.dropped)) := by
  cases fires <;> cases drops <;> simp [moveTrigger]

theorem fired_poll (reply : PollReply) {s : Signal} (h : s.fired = true) :
    (reply.poll s).2.fired = true := by
  have hm : (moveTrigger reply.fires reply.drops s).fired = true := by simp [h]
  -- Whatever the poll does after that, it can only fire the trigger again.
  rw [PollReply.poll]
  generalize moveTrigger reply.fires reply.drops s = moved at hm ⊢
  cases reply.suspends with
  | true => simp [hm]
  | false => cases reply.ending <;> simp [hm]

namespace Trace

theorem signal_cons (s : Signal) (o : Occurrence) (t : Trace) :
    signal s (o :: t) = signal (signal s [o]) t := rfl

/-- The trigger stays fired, whatever happens. -/
theorem fired_signal {s : Signal} (h : s.fired = true) :
    ∀ t : Trace, (signal s t).fired = true := by
  intro t
  induction t generalizing s with
  | nil => exact h
  | cons o t ih =>
    rw [signal_cons]
    refine ih ?_
    -- Only a poll and an answer touch the trigger, and neither takes a firing back.
    cases o with
    | call c => exact h
    | log l => exact h
    | counted refused => exact h
    | answered reply =>
      change (moveTrigger reply.fires reply.drops s).fired = true
      simp [h]
    | polled reply seen => exact fired_poll reply h

end Trace

/-! ### Heeding the signal -/

/-- Under this signal, no poll is begun if the end was asked for, and a poll is seen as its reply
ends. -/
def Occurrence.Heeds (s : Signal) : Occurrence → Prop
  | .call (.poll _) => s.fired = false
  | .polled reply seen => seen = (reply.poll s).1
  | .call (.send _ _ _) | .call (.flush _) | .call .close => True
  | .answered _ | .counted _ | .log _ => True

namespace Trace

/-- At every moment the row heeds what has become of the trigger by then. -/
def Heeds (s : Signal) (t : Trace) : Prop :=
  ∀ before o after, t = before ++ o :: after → o.Heeds (signal s before)

theorem heeds_nil (s : Signal) : Heeds s [] := by
  intro before o after h
  cases before <;> cases h

theorem heeds_cons {s : Signal} {o : Occurrence} {t : Trace} :
    Heeds s (o :: t) ↔ o.Heeds s ∧ Heeds (signal s [o]) t := by
  constructor
  · intro h
    refine ⟨h [] o t rfl, ?_⟩
    intro before x after ht
    exact h (o :: before) x after (by rw [ht]; rfl)
  · rintro ⟨ho, ht⟩ before x after h
    -- The occurrence in question is the first one or stands in the rest.
    cases before with
    | nil =>
      obtain ⟨rfl, rfl⟩ := List.cons_eq_cons.mp h
      exact ho
    | cons y before =>
      obtain ⟨rfl, rfl⟩ := List.cons_eq_cons.mp h
      exact ht before x after rfl

theorem heeds_append {s : Signal} {t u : Trace} :
    Heeds s (t ++ u) ↔ Heeds s t ∧ Heeds (signal s t) u := by
  -- The second row begins under the signal that the first one leaves.
  induction t generalizing s with
  | nil => exact ⟨fun h => ⟨heeds_nil s, h⟩, fun h => h.2⟩
  | cons o t ih =>
    rw [List.cons_append, heeds_cons, heeds_cons, ih, ← signal_cons, and_assoc]

/-- Only polls ask for heed. -/
theorem Quiet.heeds {t : Trace} (h : t.Quiet) (s : Signal) : Heeds s t := by
  intro before o after ht
  have hq := h o (by rw [ht]; exact List.mem_append_right _ List.mem_cons_self)
  cases o with
  | call c =>
    cases c with
    | poll timeout => cases hq
    | send topic key payload => trivial
    | flush timeout => trivial
    | close => trivial
  | polled reply seen => cases hq
  | answered reply => trivial
  | counted refused => trivial
  | log l => trivial

/-! ### Outcomes and replies -/

/-- The replies that were asked for. -/
def replies (t : Trace) : List PollReply :=
  t.filterMap fun
    | .polled reply _ => some reply
    | _ => none

@[simp] theorem replies_append (t u : Trace) : replies (t ++ u) = replies t ++ replies u :=
  List.filterMap_append

theorem Quiet.outcomes {t : Trace} (h : t.Quiet) : t.outcomes = [] := by
  rw [Trace.outcomes, List.filterMap_eq_nil_iff]
  intro x hx
  have hq := h x hx
  cases x with
  | polled reply seen => cases hq
  | call c => rfl
  | answered reply => rfl
  | counted refused => rfl
  | log l => rfl

theorem Quiet.replies {t : Trace} (h : t.Quiet) : t.replies = [] := by
  rw [Trace.replies, List.filterMap_eq_nil_iff]
  intro x hx
  have hq := h x hx
  cases x with
  | polled reply seen => cases hq
  | call c => rfl
  | answered reply => rfl
  | counted refused => rfl
  | log l => rfl

end Trace

namespace Watch

theorem outcomes_pollTrace {w : Watch} {reply : PollReply}
    (h : ∀ o, (reply.poll w.signal).1 ≠ .completed o) : (w.pollTrace reply).outcomes = [] := by
  rw [pollTrace]
  cases hs : (reply.poll w.signal).1 with
  | completed o => exact absurd hs (h o)
  | abandoned => rfl
  | unwound => rfl

theorem outcomes_pollTrace_append {w : Watch} {reply : PollReply} {o : Outcome}
    (h : (reply.poll w.signal).1 = .completed o) :
    Trace.outcomes (w.pollTrace reply ++ ((w.polled reply).handle o).trace) = [o] := by
  rw [Trace.outcomes_append, (quiet_handle _ _).outcomes, pollTrace, h]
  rfl

/-! ### The signal of a watch -/

theorem signal_emit (w : Watch) (event : AuditEvent) :
    (w.emit event).watch.signal = Trace.signal w.signal (w.emit event).trace := by
  by_cases h : w.sendReply.ending = .succeeds
  · rw [emit_of_taken event h]
    rfl
  · rw [emit_of_not_taken event h]
    rfl

theorem signal_follow (w : Watch) (r : Reading) :
    (w.follow r).watch.signal = Trace.signal w.signal (w.follow r).trace := by
  cases r with
  | unread text => rfl
  | other event => rfl
  | valid event => rfl
  | suspect event reason => exact signal_emit w.countEvent event

theorem signal_handle (w : Watch) (o : Outcome) :
    (w.handle o).watch.signal = Trace.signal w.signal (w.handle o).trace := by
  cases o with
  | idle => rfl
  | partitionEnd => rfl
  | failure f => rfl
  | message m =>
    have h := signal_follow w.countMessage m.reading
    rw [handle_message]
    cases (w.countMessage.follow m.reading).ending with
    | unwound => exact h
    | returned result =>
      -- The line about a failure touches nothing.
      have hf : ∀ s, Trace.signal s (failureLines m result) = s := by
        intro s
        cases result <;> rfl
      simp only [Trace.signal_append, hf]
      exact h

theorem signal_turn (w : Watch) (reply : PollReply) :
    (w.turn reply).watch.signal = Trace.signal w.signal (w.turn reply).trace := by
  have hc := w.turn_course reply
  generalize w.turn reply = turn at hc ⊢
  cases hc with
  | closed => rfl
  | asked => rfl
  | abandoned => rfl
  | unwound => rfl
  | handled => rw [signal_handle, Trace.signal_append]; rfl
  | broken => rw [signal_handle, Trace.signal_append]; rfl

/-- **The signal after the turns is the one that what happened tells.** -/
theorem signal_turns (w : Watch) (script : List PollReply) :
    (w.turns script).watch.signal = Trace.signal w.signal (w.turns script).trace :=
  turns_induct (motive := fun w _ t => t.watch.signal = Trace.signal w.signal t.trace)
    (fun w reply _ _ => signal_turn w reply)
    (fun w reply _ rest _ ih => by rw [Trace.signal_append, ← signal_turn, ih])
    w script

/-! ### Turns and runs heed it -/

theorem heeds_turn (w : Watch) (reply : PollReply) :
    Trace.Heeds w.signal (w.turn reply).trace := by
  have hc := w.turn_course reply
  -- A turn polls only under an unfired trigger, and all that follows its poll asks for no heed.
  have hpoll : w.signal.fired = false → Trace.Heeds w.signal (w.pollTrace reply) := fun hf =>
    Trace.heeds_cons.mpr ⟨hf, Trace.heeds_cons.mpr ⟨rfl, Trace.heeds_nil _⟩⟩
  generalize w.turn reply = turn at hc ⊢
  cases hc with
  | closed => exact Trace.heeds_nil _
  | asked => exact Trace.heeds_nil _
  | abandoned hp hf hs => exact hpoll hf
  | unwound hp hf hs => exact hpoll hf
  | handled hp hf hs hr =>
    exact Trace.heeds_append.mpr ⟨hpoll hf, (quiet_handle _ _).heeds _⟩
  | broken hp hf hs hr =>
    exact Trace.heeds_append.mpr ⟨hpoll hf, (quiet_handle _ _).heeds _⟩

theorem heeds_turns (w : Watch) (script : List PollReply) :
    Trace.Heeds w.signal (w.turns script).trace :=
  turns_induct (motive := fun w _ t => Trace.Heeds w.signal t.trace)
    (fun w reply _ _ => heeds_turn w reply)
    (fun w reply _ rest _ ih => by
      refine Trace.heeds_append.mpr ⟨heeds_turn w reply, ?_⟩
      rw [← signal_turn]
      exact ih)
    w script

/-- A run heeds the signal: its turns do, and nothing is polled before or after them. -/
theorem heeds_run (w : Watch) (script : List PollReply) :
    Trace.Heeds w.signal (w.run script).trace := by
  obtain ⟨closing, htrace, hclosing, -⟩ := w.trace_run script
  have hquiet : closing.Quiet := fun x hx => isPoll_of_isClosing (hclosing x hx)
  rw [htrace]
  refine Trace.heeds_cons.mpr ⟨trivial, Trace.heeds_append.mpr ⟨?_, hquiet.heeds _⟩⟩
  exact heeds_turns w script

/-! ### The script -/

theorem replies_turn (w : Watch) (reply : PollReply) :
    (w.turn reply).trace.replies <+: [reply] ∧
      ((w.turn reply).next = .again → (w.turn reply).trace.replies = [reply]) := by
  have hc := w.turn_course reply
  have hpoll : (w.pollTrace reply).replies = [reply] := rfl
  generalize w.turn reply = turn at hc ⊢
  cases hc with
  | closed => exact ⟨List.nil_prefix, nofun⟩
  | asked => exact ⟨List.nil_prefix, nofun⟩
  | abandoned => exact ⟨List.prefix_rfl, nofun⟩
  | unwound => exact ⟨List.prefix_rfl, nofun⟩
  | handled =>
    rw [Trace.replies_append, (quiet_handle _ _).replies, List.append_nil]
    exact ⟨List.prefix_rfl, fun _ => hpoll⟩
  | broken =>
    rw [Trace.replies_append, (quiet_handle _ _).replies, List.append_nil]
    exact ⟨List.prefix_rfl, nofun⟩

theorem replies_turns (w : Watch) (script : List PollReply) :
    (w.turns script).trace.replies <+: script ++ [lastReply, lastReply] :=
  turns_induct (motive := fun _ replies t => t.trace.replies <+: replies)
    (fun w reply later _ => (replies_turn w reply).1.trans ⟨later, rfl⟩)
    (fun w reply later rest hn ih => by
      rw [Trace.replies_append, (replies_turn w reply).2 hn]
      exact List.cons_prefix_cons.mpr ⟨rfl, ih⟩)
    w script

/-- A watch that goes on polls in its next turn. -/
theorem replies_turn_of_open {w : Watch} (reply : PollReply) (hp : w.phase = .running)
    (hf : w.signal.fired = false) : (w.turn reply).trace.replies = [reply] := by
  have hc := w.turn_course reply
  have hpoll : (w.pollTrace reply).replies = [reply] := rfl
  generalize w.turn reply = turn at hc ⊢
  cases hc with
  | closed hp' => exact absurd hp hp'
  | asked _ hf' =>
    rw [hf] at hf'
    cases hf'
  | abandoned => exact hpoll
  | unwound => exact hpoll
  | handled => rw [Trace.replies_append, (quiet_handle _ _).replies, hpoll, List.append_nil]
  | broken => rw [Trace.replies_append, (quiet_handle _ _).replies, hpoll, List.append_nil]

/-- The poll of an exhausted source is not given up. -/
theorem poll_lastReply_ne_abandoned (s : Signal) : (lastReply.poll s).1 ≠ .abandoned := by
  show (if s.fire.fired = true then (Polled.completed .idle, s.fire) else (.unwound, s)).1
    ≠ .abandoned
  by_cases hf : s.fire.fired = true
  · rw [if_pos hf]
    exact nofun
  · rw [if_neg hf]
    exact nofun

/-- An exhausted source is polled once. -/
theorem replies_turns_nil {w : Watch} (hp : w.phase = .running) (hf : w.signal.fired = false) :
    (w.turns []).trace.replies = [lastReply] := by
  have hfirst := replies_turn_of_open lastReply hp hf
  rw [turns_nil, Turn.andThen]
  cases hn : (w.turn lastReply).next with
  | leave => exact hfirst
  | unwound => exact hfirst
  | again =>
    -- The second turn of an exhausted source leaves, and it does so without another poll.
    have hlast := next_turn_lastReply hn lastReply
    have hc := (w.turn lastReply).watch.turn_course lastReply
    show Trace.replies ((w.turn lastReply).trace ++ _) = _
    rw [Trace.replies_append, hfirst]
    generalize (w.turn lastReply).watch.turn lastReply = second at hc hlast ⊢
    cases hc with
    | closed => rfl
    | asked => rfl
    | abandoned _ _ hs => exact absurd hs (poll_lastReply_ne_abandoned _)
    | unwound => cases hlast
    | handled => cases hlast
    | broken => cases hlast

theorem replies_run_eq (w : Watch) (script : List PollReply) :
    (w.run script).trace.replies = (w.turns script).trace.replies := by
  obtain ⟨closing, htrace, hclosing, -⟩ := w.trace_run script
  have hquiet : closing.Quiet := fun x hx => isPoll_of_isClosing (hclosing x hx)
  rw [htrace]
  show Trace.replies ((w.turns script).trace ++ closing) = _
  rw [Trace.replies_append, hquiet.replies, List.append_nil]

/-- **A run asks for the replies of its script in order**, and finds the source exhausted after
them. -/
theorem replies_run (w : Watch) (script : List PollReply) :
    (w.run script).trace.replies <+: script ++ [lastReply, lastReply] := by
  rw [replies_run_eq]
  exact replies_turns w script

end Watch

end IbanWatch
