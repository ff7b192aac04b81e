import IbanWatch.Config.Basic
import IbanWatch.Proofs.Event.AlertPayload
import IbanWatch.Proofs.Watch.Exchanges
import IbanWatch.Proofs.Watch.HeadStart
import IbanWatch.Proofs.Watch.Undisturbed
import Mathlib.Algebra.GroupWithZero.Nat

/-!
# A watch that hears its own alerts

Unless it is told otherwise a watch sends its alerts to the topic that it watches, and so they come
back to it.  An alert reads as an event of another kind, whatever strings stand in it, and is put
aside: it raises nothing.  So a run that hears any number of alerts between its messages does with
the messages what it would have done without them, and only counts more messages and more that were
put aside.

## Main definitions

* `Echo` — an alert that comes back as a message.
* `withEchoes`, `echoesBefore` — a script with echoes in front of its replies, and their number.
* `Watch.ignoring` — the watch after it has put more messages aside.

## Main results

* `process_echo` — an echo is put aside.
* `turns_ignoring` — what was put aside before makes no difference.
* `turns_withEchoes` — turns with echoes do what turns without them do.
* `ignores_own_alerts` — **a watch never feeds on its own alerts.**
-/

namespace IbanWatch

open Text Time Shutdown

/-! ### Echoes -/

/-- An alert that comes back from the stream. -/
structure Echo where
  /-- The event that the alert was raised for. -/
  event : AuditEvent
  /-- The instant in the alert. -/
  detectedAt : Instant
  /-- The part of the stream it comes back in. -/
  partition : Int
  /-- Its place there. -/
  offset : Int

namespace Echo

/-- The message that it comes back as. -/
def message (e : Echo) : Message where
  payload := some (FraudAlert.invalidIban e.event e.detectedAt).encode
  partition := e.partition
  offset := e.offset

/-- The event that it is understood as. -/
def understood (e : Echo) : AuditEvent := ⟨fraudDetected, e.event.userId, ""⟩

/-- The plain reply of a source that brings it. -/
def reply (e : Echo) : PollReply := .bringing (.message e.message)

/-- **An echo reads as an event of another kind.** -/
theorem reading_message (e : Echo) : e.message.reading = .other e.understood := by
  have hdecode : e.message.payload.map AuditEvent.decode = some (.ok e.understood) :=
    congrArg some (FraudAlert.decode_encode _)
  rw [Message.reading, hdecode]
  rfl

end Echo

/-- The script with echoes in front of its replies and behind the last one: those of number `i`
stand in front of the reply of number `i`. -/
def withEchoes (echoes : Nat → List Echo) : List PollReply → List PollReply
  | [] => (echoes 0).map Echo.reply
  | reply :: script =>
    (echoes 0).map Echo.reply ++ reply :: withEchoes (fun i => echoes (i + 1)) script

/-- How many echoes stand in front of the first replies. -/
def echoesBefore (echoes : Nat → List Echo) (replies : Nat) : Nat :=
  ((List.range replies).map fun i => (echoes i).length).sum

theorem echoesBefore_succ (echoes : Nat → List Echo) (n : Nat) :
    echoesBefore echoes (n + 1)
      = (echoes 0).length + echoesBefore (fun i => echoes (i + 1)) n := by
  rw [echoesBefore, List.range_succ_eq_map, List.map_cons, List.sum_cons, List.map_map]
  rfl

/-! ### Messages that were put aside -/

/-- The counts after so many more messages were put aside. -/
def Stats.ignoring (s : Stats) (n : Nat) : Stats :=
  { s with messages := s.messages + n, ignoredEvents := s.ignoredEvents + n }

/-- The watch after so many more messages were put aside. -/
def Watch.ignoring (w : Watch) (n : Nat) : Watch := { w with counts := w.counts.ignoring n }

/-- The same turn, of a watch that has put more messages aside. -/
def Turn.ignoring (t : Turn) (n : Nat) : Turn := ⟨t.next, t.watch.ignoring n, t.trace⟩

namespace Watch

theorem ignoring_ignoring (w : Watch) (m n : Nat) :
    (w.ignoring m).ignoring n = w.ignoring (n + m) := by
  simp only [ignoring, Stats.ignoring, Nat.add_assoc, Nat.add_comm m n]

/-- **All turns go the same way**, however many messages were put aside before. -/
theorem turns_ignoring (w : Watch) (script : List PollReply) (n : Nat) :
    (w.ignoring n).turns script = (w.turns script).ignoring n :=
  turns_ahead w script { messages := n, ignoredEvents := n }

/-! ### Echoes in a run -/

/-- **An echo is put aside**: nothing is called and nothing changes. -/
theorem process_echo (w : Watch) (e : Echo) :
    w.process e.message = ⟨.returned (.ok .ignored), w, [.log (.received e.understood)]⟩ := by
  rw [process_eq_follow, e.reading_message]
  rfl

/-- **An echo passes**: of all counts only those of the messages and of the messages put aside
grow. -/
theorem passes_echo (e : Echo) : (Outcome.message e.message).Passes
    { messages := 1, ignoredEvents := 1 } [.received e.understood] := by
  intro w
  rw [handle_message, e.reading_message]
  rfl

/-- **A row of echoes is put aside**, and then the watch does what it would have done without
them. -/
theorem turns_echoes (es : List Echo) {w : Watch} (hp : w.phase = .running)
    (hf : w.signal.fired = false) (script : List PollReply) :
    ∃ heard : Trace, heard.emissions = [] ∧ w.turns (es.map Echo.reply ++ script)
      = ⟨(w.turns script).next, (w.turns script).watch.ignoring es.length,
          heard ++ (w.turns script).trace⟩ := by
  induction es with
  | nil => exact ⟨[], rfl, rfl⟩
  | cons e es ih =>
    obtain ⟨heard, hheard, hes⟩ := ih
    have hturn : w.turn e.reply = ⟨.again, w.ignoring 1,
        w.pollTrace e.reply ++ [.log (.received e.understood)]⟩ :=
      turn_of_passes (passes_echo e) false hp hf
    -- The echo is put aside in a turn of its own, and the watch goes on as it would have begun.
    refine ⟨w.pollTrace e.reply ++ .log (.received e.understood) :: heard, ?_, ?_⟩
    · rw [Trace.emissions_append]
      exact hheard
    · rw [List.map_cons, List.cons_append, turns_cons, hturn, Turn.andThen]
      simp only [turns_ignoring, hes, Turn.ignoring, ignoring_ignoring, List.length_cons,
        Nat.add_comm 1, List.append_assoc, List.cons_append, List.nil_append]

/-- The turns `t'` do what the turns `t` do, but put so many more messages aside. -/
structure SameButIgnored (n : Nat) (t t' : Turn) : Prop where
  /-- They end in the same way. -/
  next : t'.next = t.next
  /-- They leave the same watch, up to the messages that were put aside. -/
  watch : t'.watch = t.watch.ignoring n
  /-- They emit the same. -/
  emissions : t'.trace.emissions = t.trace.emissions

theorem SameButIgnored.refl (t : Turn) : SameButIgnored 0 t t := ⟨rfl, rfl, rfl⟩

/-- Echoes in front of turns make no difference to what these do. -/
theorem SameButIgnored.behind_echoes {n : Nat} {t : Turn} {w : Watch} {script : List PollReply}
    (h : SameButIgnored n t (w.turns script)) (es : List Echo) (hp : w.phase = .running)
    (hf : w.signal.fired = false) :
    SameButIgnored (es.length + n) t (w.turns (es.map Echo.reply ++ script)) := by
  obtain ⟨heard, hheard, hes⟩ := turns_echoes es hp hf script
  rw [hes]
  refine ⟨h.next, ?_, ?_⟩
  · show (w.turns script).watch.ignoring es.length = _
    rw [h.watch, ignoring_ignoring]
  · show Trace.emissions (heard ++ (w.turns script).trace) = _
    rw [Trace.emissions_append, hheard, List.nil_append, h.emissions]

/-- **Turns with echoes do what turns without them do.**  What is put aside in addition are the
echoes in front of the replies that are polled without them, and no others: those behind are not
polled any more. -/
theorem turns_withEchoes (w : Watch) (echoes : Nat → List Echo) (script : List PollReply) :
    SameButIgnored (echoesBefore echoes (w.turns script).trace.replies.length) (w.turns script)
      (w.turns (withEchoes echoes script)) := by
  induction script generalizing w echoes with
  | nil =>
    by_cases hopen : w.phase = .running ∧ w.signal.fired = false
    · obtain ⟨hp, hf⟩ := hopen
      -- With the script used up one more poll asks for the end, and the echoes stand in front of
      -- it.
      have hechoes := (SameButIgnored.refl (w.turns [])).behind_echoes (echoes 0) hp hf
      rw [replies_turns_nil hp hf, List.length_singleton, echoesBefore_succ]
      rw [List.append_nil] at hechoes
      exact hechoes
    · obtain ⟨v, hv⟩ := turns_of_over hopen
      rw [hv, hv]
      exact SameButIgnored.refl _
  | cons reply script ih =>
    -- A watch that is over polls nothing, neither with echoes nor without.
    by_cases hopen : w.phase = .running ∧ w.signal.fired = false
    · obtain ⟨hp, hf⟩ := hopen
      have hreplies := replies_turn_of_open reply hp hf
      rw [withEchoes]
      by_cases hn : (w.turn reply).next = .again
      · -- There is another turn, and the echoes behind this reply are heard from there on.
        obtain ⟨hnext, hwatch, hemissions⟩ := ih (w.turn reply).watch fun i => echoes (i + 1)
        rw [turns_cons_of_again hn script, Trace.replies_append, hreplies, List.singleton_append,
          List.length_cons, echoesBefore_succ]
        refine SameButIgnored.behind_echoes ?_ (echoes 0) hp hf
        rw [turns_cons_of_again hn]
        refine ⟨hnext, hwatch, ?_⟩
        rw [Trace.emissions_append, Trace.emissions_append, hemissions]
      · -- This poll is the last, and only the echoes in front of it are heard.
        rw [turns_cons_of_ne_again hn script, hreplies, List.length_singleton, echoesBefore_succ]
        refine SameButIgnored.behind_echoes ?_ (echoes 0) hp hf
        rw [turns_cons_of_ne_again hn]
        exact SameButIgnored.refl _
    · obtain ⟨v, hv⟩ := turns_of_over hopen
      rw [hv, hv]
      exact SameButIgnored.refl _

/-! ### The run -/

/-- **A watch never feeds on its own alerts.**  Unless it is told otherwise they go to the topic
that it watches.  When one comes back, with whatever strings of whatever event in it, the watch puts
it aside, calls nobody and stays as it is.  So echoes in a script, in any number and at any places,
change neither what a run hands over and flushes nor how it ends, and of the counts only those of
the messages and of the messages put aside, by one for each echo in front of a reply that is polled
without them; those behind come after the shutdown and are not polled. -/
theorem ignores_own_alerts :
    ({} : StreamConfig).alertTopic = ({} : StreamConfig).topic
    ∧ (∀ (w : Watch) (e : Echo), w.process e.message
        = ⟨.returned (.ok .ignored), w, [.log (.received e.understood)]⟩)
    ∧ ∀ (w : Watch) (script : List PollReply) (echoes : Nat → List Echo),
      let n := echoesBefore echoes (w.run script).trace.replies.length
      (w.run (withEchoes echoes script)).trace.emissions = (w.run script).trace.emissions
        ∧ (w.run (withEchoes echoes script)).ending
          = (w.run script).ending.map (Stats.ignoring · n)
        ∧ (w.run (withEchoes echoes script)).watch.stats
          = (w.run script).watch.stats.ignoring n := by
  refine ⟨rfl, process_echo, fun w script echoes => ?_⟩
  obtain ⟨hnext, hwatch, hemissions⟩ := turns_withEchoes w echoes script
  have hstats : ∀ n, ((w.turns script).watch.ignoring n).stats
      = (w.turns script).watch.stats.ignoring n := fun n => rfl
  simp only [emissions_run, replies_run_eq, ending_run_eq, stats_run, hnext, hwatch, hemissions,
    hstats, true_and, and_true]
  cases (w.turns script).next with
  | again => rfl
  | leave => rfl
  | unwound => rfl

end Watch

end IbanWatch
