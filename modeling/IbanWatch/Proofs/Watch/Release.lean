import IbanWatch.Proofs.Watch.Turns

/-!
# The release of the source

A watch releases its source exactly once, whatever becomes of it: a message handed in from outside
or a run may unwind anywhere, and the watch may also be let go without a run.  The phase guards the
release: no step but the release itself stops a watch, and none of them releases anything.

## Main definitions

* `Trace.Open` — nothing in a row belongs to the end of a run.
* `Session.happened` — all that happens in a session.

## Main results

* `phase_answers`, `phase_turns` — neither messages from outside nor turns stop a watch.
* `open_answers`, `open_turns` — nor do they release the source.
* `calls_session` — the source is released once in a session, and last of all.
-/

namespace IbanWatch

open Time Shutdown

/-- Nothing in the row belongs to the end of a run. -/
def Trace.Open (t : Trace) : Prop := ∀ x ∈ t, x.isClosing = false

theorem Trace.open_nil : Open [] := fun _ hx => absurd hx List.not_mem_nil

theorem isClosing_of_isInner {x : Occurrence} (h : x.isInner = true) : x.isClosing = false := by
  cases hclosing : x.isClosing with
  | false => rfl
  | true =>
    rw [isInner_of_isClosing hclosing] at h
    cases h

namespace Watch

/-- All that happens in a session. -/
def Session.happened (s : Session) : Trace := s.answers.flatMap (·.trace) ++ s.trace

/-! ### Before the run -/

/-- Where nothing belongs to the end of a run, the source is not released. -/
theorem close_not_mem_of_open {t : Trace} (h : t.Open) : Call.close ∉ t.calls := by
  intro hc
  obtain ⟨x, hx, hcall⟩ := List.mem_filterMap.mp hc
  have hopen := h x hx
  -- Of all occurrences only a call is among the calls, and the release is the one that is closing.
  cases x with
  | call c =>
    cases hcall
    cases hopen
  | polled reply seen => cases hcall
  | answered reply => cases hcall
  | counted refused => cases hcall
  | log l => cases hcall

theorem open_answer (w : Watch) (r : Request) : (w.answer r).trace.Open := by
  cases r with
  | trigger => exact Trace.open_nil
  | message m =>
    rw [answer, process_eq_follow]
    exact fun x hx => isClosing_of_isInner (isInner_of_mem_follow x hx)

theorem phase_answer (w : Watch) (r : Request) : (w.answer r).watch.phase = w.phase := by
  cases r with
  | trigger => rfl
  | message m => exact (keeps_process w m).phase

/-- **Messages from outside do not stop a watch**, whether they fail, unwind or not. -/
theorem phase_answers (w : Watch) (requests : List Request) :
    (w.answers requests).2.phase = w.phase := by
  induction requests generalizing w with
  | nil => rfl
  | cons r rest ih =>
    rw [answers]
    exact (ih (w.answer r).watch).trans (phase_answer w r)

/-- **Messages from outside do not release the source**, nor do anything else that belongs to the
end of a run. -/
theorem open_answers (w : Watch) (requests : List Request) :
    ∀ a ∈ (w.answers requests).1, a.trace.Open := by
  induction requests generalizing w with
  | nil => exact fun a ha => absurd ha List.not_mem_nil
  | cons r rest ih =>
    rw [answers]
    intro a ha
    rcases List.mem_cons.mp ha with rfl | ha
    · exact open_answer w r
    · exact ih (w.answer r).watch a ha

theorem open_earlier (w : Watch) (requests : List Request) :
    Trace.Open ((w.answers requests).1.flatMap (·.trace)) := by
  intro x hx
  obtain ⟨a, ha, hx⟩ := List.mem_flatMap.mp hx
  exact open_answers w requests a ha x hx

/-! ### The turns -/

theorem phase_turn {w : Watch} (reply : PollReply) (h : w.phase ≠ .stopped) :
    (w.turn reply).watch.phase ≠ .stopped := by
  have hc := w.turn_course reply
  generalize w.turn reply = turn at hc ⊢
  -- A turn may leave the watch shutting down, but stopping it is left to the release.
  cases hc with
  | closed => exact h
  | asked => exact nofun
  | abandoned => exact nofun
  | unwound => exact h
  | handled => rw [(keeps_handle _ _).phase]; exact h
  | broken => rw [(keeps_handle _ _).phase]; exact h

theorem open_turn (w : Watch) (reply : PollReply) : (w.turn reply).trace.Open := by
  have hc := w.turn_course reply
  have hpoll : (w.pollTrace reply).Open := by
    intro x hx
    simp only [pollTrace, List.mem_cons, List.not_mem_nil, or_false] at hx
    rcases hx with rfl | rfl
    · rfl
    · rfl
  have hhandle : ∀ o, Trace.Open (w.pollTrace reply ++ ((w.polled reply).handle o).trace) := by
    intro o x hx
    rcases List.mem_append.mp hx with hx | hx
    · exact hpoll x hx
    · exact isClosing_of_isInner (isInner_of_mem_handle x hx)
  -- Whatever course the turn takes, it happens in the poll or in what is handled.
  generalize w.turn reply = turn at hc ⊢
  cases hc with
  | closed => exact Trace.open_nil
  | asked => exact Trace.open_nil
  | abandoned => exact hpoll
  | unwound => exact hpoll
  | handled => exact hhandle _
  | broken => exact hhandle _

/-- **The turns do not stop a watch**, whether they are left or unwound. -/
theorem phase_turns {w : Watch} (script : List PollReply) (h : w.phase ≠ .stopped) :
    (w.turns script).watch.phase ≠ .stopped :=
  turns_induct (motive := fun w _ t => w.phase ≠ .stopped → t.watch.phase ≠ .stopped)
    (fun _ reply _ _ h => phase_turn reply h)
    (fun _ reply _ _ _ ih h => ih (phase_turn reply h))
    w script h

/-- **The turns do not release the source**, nor do anything else that belongs to the end of the
run. -/
theorem open_turns (w : Watch) (script : List PollReply) : (w.turns script).trace.Open :=
  turns_induct (motive := fun _ _ t => t.trace.Open)
    (fun w reply _ _ => open_turn w reply)
    (fun w reply _ rest _ ih x hx => by
      rcases List.mem_append.mp hx with hx | hx
      · exact open_turn w reply x hx
      · exact ih x hx)
    w script

/-- A run ends with the release of the source, which it does not release before. -/
theorem calls_run {w : Watch} (script : List PollReply) (h : w.phase ≠ .stopped) :
    (w.run script).trace.calls = (w.turns script).trace.calls ++ [.close] := by
  obtain ⟨closing, htrace, -, hcalls⟩ := w.trace_run script
  have hclose : closing.calls = [.close] := by
    rw [hcalls, stop_snd_of_not_stopped (phase_turns script h)]
    rfl
  rw [htrace]
  change Trace.calls ((w.turns script).trace ++ closing) = _
  rw [Trace.calls_append, hclose]

/-! ### The session -/

theorem answers_session (w : Watch) (requests : List Request)
    (script : Option (List PollReply)) :
    (w.session requests script).answers = (w.answers requests).1 := by
  cases script <;> rfl

theorem trace_session (w : Watch) (requests : List Request) (script : Option (List PollReply)) :
    (w.session requests script).trace = script.elim (w.answers requests).2.drop.2
      fun script => ((w.answers requests).2.run script).trace := by
  cases script <;> rfl

/-- **In every session the source is released exactly once, and last of all**: there are messages
from outside, any of which may unwind, and then a run, which may unwind too, or none.  Nothing is
released before the run ends or the watch is let go. -/
theorem calls_session (settings : Settings) (signal : Signal) (emitter : Emitter)
    (clock : Nat → Instant) (requests : List Request) (script : Option (List PollReply)) :
    let s := (fresh settings signal emitter clock).session requests script
    (∃ before, s.happened.calls = before ++ [.close] ∧ Call.close ∉ before)
      ∧ ∀ a ∈ s.answers, Call.close ∉ a.trace.calls := by
  generalize hw : fresh settings signal emitter clock = w
  have hphase : (w.answers requests).2.phase ≠ .stopped := by
    rw [phase_answers, ← hw]
    exact nofun
  have hearlier := close_not_mem_of_open (open_earlier w requests)
  simp only [Session.happened, answers_session, trace_session, Trace.calls_append]
  -- Whether it runs or not, the watch comes to its release unstopped, and so releases the source.
  refine ⟨?_, fun a ha => close_not_mem_of_open (open_answers w requests a ha)⟩
  cases script with
  | none =>
    refine ⟨_, ?_, hearlier⟩
    rw [Option.elim_none, drop, stop_snd_of_not_stopped hphase]
    rfl
  | some script =>
    refine ⟨Trace.calls ((w.answers requests).1.flatMap (·.trace))
      ++ ((w.answers requests).2.turns script).trace.calls, ?_, ?_⟩
    · rw [Option.elim_some, calls_run script hphase, ← List.append_assoc]
    · intro h
      rcases List.mem_append.mp h with h | h
      · exact hearlier h
      · exact close_not_mem_of_open (open_turns _ script) h

end Watch

end IbanWatch
