import IbanWatch.Proofs.Watch.Balance
import IbanWatch.Proofs.Watch.Clocks
import IbanWatch.Proofs.Watch.HeadStart

/-!
# Noise in the stream

A poll may bring nothing, the end of a partition, a failure, a deletion marker or a message that is
refused by the decoder.  All of this is noise: it is counted and told, and that is all.  A script
with one more such outcome in it, at any place, makes the watch do what it would have done without,
and leaves it with the same counts but for the noise itself, if the run comes that far.

## Main definitions

* `Outcome.Noise` — the outcomes that are noise, each with what it adds to the counts.
* `Watch.Inserted` — turns agree but for a reply that was put in.

## Main results

* `Noise.passes` — noise passes.
* `turns_insert` — turns with noise put in do what turns without it do.
* `isolated_run` — **one bad message harms no other.**
-/

namespace IbanWatch

open Time Shutdown

/-! ### Noise -/

/-- The outcome is noise and adds this much to the counts. -/
inductive Outcome.Noise : Outcome → Stats → Prop
  /-- Nothing came. -/
  | idle : Noise .idle {}
  /-- A partition has no more messages for now. -/
  | partitionEnd : Noise .partitionEnd {}
  /-- The stream failed, in whatever way. -/
  | failure (f : Failure) : Noise (.failure f) { transportErrors := 1 }
  /-- The message has no payload, or one that the decoder refuses. -/
  | unread {m : Message} (h : m.payload = none ∨ ∃ payload misread, m.payload = some payload
      ∧ AuditEvent.decode payload = .error misread) :
      Noise (.message m) { messages := 1, decodeFailures := 1 }

/-- **Noise passes**: no call is made for it, and nothing but its own counts grows. -/
theorem Outcome.Noise.passes {o : Outcome} {extra : Stats} (h : o.Noise extra) :
    ∃ lines : List LogLine, o.Passes extra lines := by
  cases h with
  | idle => exact ⟨[], Outcome.passes_idle⟩
  | partitionEnd => exact ⟨[.partitionEnd], Outcome.passes_partitionEnd⟩
  | failure f => exact ⟨[.streamFailed f], fun w => rfl⟩
  | @unread m h =>
    have hunread : m.isUnread = true := Message.isUnread_iff.mpr h
    -- What the decoder refuses reads as unread, and no other message does.
    obtain ⟨text, hreading⟩ : ∃ text, m.reading = .unread text := by
      rw [Message.isUnread] at hunread
      cases hr : m.reading with
      | unread text => exact ⟨text, rfl⟩
      | other event => rw [hr] at hunread; cases hunread
      | valid event => rw [hr] at hunread; cases hunread
      | suspect event reason => rw [hr] at hunread; cases hunread
    refine ⟨[.failed m.partition m.offset (.decode text)], fun w => ?_⟩
    rw [Watch.handle_message, hreading]
    rfl

namespace Watch

/-! ### Turns with noise in them -/

/-- The turns `t'` do what the turns `t` do but for a reply behind the first `before` of the script.
If `t` go that far, `t'` ask for the reply and count so much for it. -/
structure Inserted (before : List PollReply) (reply : PollReply) (extra : Stats) (t t' : Turn) :
    Prop where
  /-- They end in the same way. -/
  next : t'.next = t.next
  /-- They leave the same watch, up to the counts. -/
  watch : t'.watch = t.watch.ahead
    (if before.length < t.trace.replies.length then extra else {})
  /-- They emit the same. -/
  emissions : t'.trace.emissions = t.trace.emissions
  /-- They ask for the same replies, and for the one that was put in. -/
  replies : t'.trace.replies = if before.length < t.trace.replies.length
    then before ++ reply :: t.trace.replies.drop before.length else t.trace.replies

/-- Turns that do not come to the reply are the same with it. -/
theorem Inserted.of_not_reached {before : List PollReply} {reply : PollReply} {extra : Stats}
    {t : Turn} (h : t.trace.replies.length ≤ before.length) :
    Inserted before reply extra t t where
  next := rfl
  watch := by rw [if_neg (Nat.not_lt.mpr h), ahead_zero]
  emissions := rfl
  replies := by rw [if_neg (Nat.not_lt.mpr h)]

theorem replies_turns_ne_nil {w : Watch} (script : List PollReply) (hp : w.phase = .running)
    (hf : w.signal.fired = false) : (w.turns script).trace.replies ≠ [] := by
  cases script with
  | nil =>
    rw [replies_turns_nil hp hf]
    exact nofun
  | cons reply script =>
    have hfirst := replies_turn_of_open reply hp hf
    by_cases hn : (w.turn reply).next = .again
    · rw [turns_cons_of_again hn, Trace.replies_append, hfirst]
      exact nofun
    · rw [turns_cons_of_ne_again hn, hfirst]
      exact nofun

/-- Noise in front of all turns. -/
theorem inserted_front (w : Watch) (script : List PollReply) {o : Outcome} {extra : Stats}
    {lines : List LogLine} (h : o.Passes extra lines) (suspends : Bool) :
    Inserted [] { suspends, ending := .brings o } extra (w.turns script)
      (w.turns ({ suspends, ending := .brings o } :: script)) := by
  by_cases hopen : w.phase = .running ∧ w.signal.fired = false
  · obtain ⟨hp, hf⟩ := hopen
    -- The watch polls at least once more, so the noise is reached.
    have hreached : 0 < (w.turns script).trace.replies.length :=
      List.length_pos_iff.mpr (replies_turns_ne_nil script hp hf)
    have hlines : Trace.emissions (lines.map .log) = [] ∧ Trace.replies (lines.map .log) = [] := by
      constructor
      · simp [Trace.emissions, Trace.calls]
      · simp [Trace.replies]
    rw [turns_cons, turn_of_passes h suspends hp hf]
    simp only [Turn.andThen, turns_ahead]
    refine ⟨rfl, ?_, ?_, ?_⟩
    · rw [List.length_nil, if_pos hreached]
      rfl
    · show Trace.emissions ((w.pollTrace _ ++ _) ++ _) = _
      rw [Trace.emissions_append, Trace.emissions_append, hlines.1]
      rfl
    · rw [List.length_nil, if_pos hreached]
      show Trace.replies ((w.pollTrace _ ++ _) ++ _) = _
      rw [Trace.replies_append, Trace.replies_append, hlines.2]
      rfl
  · -- The watch is over before the noise comes.
    obtain ⟨v, hv⟩ := turns_of_over hopen
    rw [hv, hv]
    exact .of_not_reached (Nat.zero_le _)

/-- **Turns with noise put in do what turns without it do.** -/
theorem turns_insert (w : Watch) (before after : List PollReply) {o : Outcome} {extra : Stats}
    {lines : List LogLine} (h : o.Passes extra lines) (suspends : Bool) :
    Inserted before { suspends, ending := .brings o } extra (w.turns (before ++ after))
      (w.turns (before ++ { suspends, ending := .brings o } :: after)) := by
  induction before generalizing w with
  | nil => exact inserted_front w after h suspends
  | cons reply before ih =>
    rw [List.cons_append, List.cons_append]
    by_cases hn : (w.turn reply).next = .again
    -- The first reply is asked for in both, so the place of the noise is one less from here on.
    · obtain ⟨hnext, hwatch, hemissions, hreplies⟩ := ih (w.turn reply).watch
      have hfirst := (replies_turn w reply).2 hn
      rw [turns_cons_of_again hn, turns_cons_of_again hn]
      refine ⟨hnext, ?_, ?_, ?_⟩
      · rw [hwatch, Trace.replies_append, hfirst, List.singleton_append, List.length_cons,
          List.length_cons]
        simp only [Nat.add_lt_add_iff_right]
      · rw [Trace.emissions_append, Trace.emissions_append, hemissions]
      · rw [Trace.replies_append, Trace.replies_append, hfirst, hreplies, List.singleton_append,
          List.singleton_append, List.length_cons, List.length_cons, List.drop_succ_cons]
        simp only [Nat.add_lt_add_iff_right]
        split
        · rfl
        · rfl
    · -- This turn is the last, and the noise stands behind it.
      rw [turns_cons_of_ne_again hn, turns_cons_of_ne_again hn]
      have hone := (replies_turn w reply).1.length_le
      exact .of_not_reached (Nat.le_trans hone (Nat.le_add_left 1 before.length))

/-! ### The run -/

/-- **One bad message harms no other.**  Whatever the script, the emitter and the moment at which
the end is asked for: with an outcome put in at any place that is nothing, the end of a partition, a
failure, or a message without a payload or with one that the decoder refuses, a run hands over and
flushes the same in the same order, up to the instants in the alerts, and ends in the same way.  Its
counts are the same, but for the noise: if the run comes to that place at all, a failure counts as
one of the stream, and a bad message as a message and as one that could not be understood. -/
theorem isolated_run (w : Watch) (clock : Nat → Instant) (readings : Nat)
    (before after : List PollReply) {o : Outcome} {extra : Stats} (h : o.Noise extra)
    (suspends : Bool) :
    let plain := w.run (before ++ after)
    let noisy := (w.onClock clock readings).run
      (before ++ { suspends, ending := .brings o } :: after)
    let reached := before.length < plain.trace.replies.length
    List.Forall₂ Call.SameButInstant plain.trace.emissions noisy.trace.emissions
      ∧ noisy.ending = plain.ending.map (·.plus (if reached then extra else {}))
      ∧ noisy.watch.stats = plain.watch.stats.plus (if reached then extra else {})
      ∧ noisy.trace.replies = if reached
        then before ++ { suspends, ending := .brings o } :: plain.trace.replies.drop before.length
        else plain.trace.replies := by
  intro plain noisy reached
  obtain ⟨lines, hpasses⟩ := h.passes
  -- On its own clock the watch does the same, and so on another one up to the instants.
  obtain ⟨hnext, hwatch, hemissions, hreplies⟩ := w.turns_insert before after hpasses suspends
  have hclock : w.SameButClock (w.onClock clock readings) := ⟨clock, readings, rfl⟩
  obtain ⟨hending, hstopped, htrace⟩ :=
    alike_run hclock (before ++ { suspends, ending := .brings o } :: after)
  have hplain : plain.trace.replies = (w.turns (before ++ after)).trace.replies :=
    replies_run_eq w _
  refine ⟨?_, ?_, ?_, ?_⟩
  -- What comes before and after the turns calls no emitter.
  · have h := htrace.emissions
    rw [emissions_run, hemissions, ← emissions_run] at h
    exact h
  · show noisy.ending = _
    rw [hending, ending_run_eq, ending_run_eq, hnext, hwatch, stats_ahead]
    simp only [reached, hplain]
    cases (w.turns (before ++ after)).next with
    | again => rfl
    | leave => rfl
    | unwound => rfl
  · show noisy.watch.stats = _
    rw [hstopped.stats, stats_run, stats_run, hwatch, stats_ahead]
    simp only [reached, hplain]
  · show noisy.trace.replies = _
    rw [htrace.replies, replies_run_eq, hreplies]
    simp only [reached, hplain]

/-- What is counted of the script alone, without the requests. -/
def everyOutcomeRunStats : Stats :=
  { messages := 6, ignoredEvents := 1, ibanEvents := 4, validIbans := 1, alertsRaised := 2,
    decodeFailures := 2, transportErrors := 1, deliveryFailures := 1, rejectedDeliveries := 2 }

/-- The end of the first hour of 1970. -/
def anHourOn : Instant := ⟨3600, 0, by decide⟩

/-- A deletion marker more in the stream of a watch that polls on another clock: it counts one
message and one failure to decode more, and calls its emitter as it does without. -/
theorem isolated_deletionMarker :
    let plain := unreliable.run everyOutcome
    let noisy := (unreliable.onClock (fun _ => anHourOn) 3).run
      (everyOutcome.take 4 ++ { suspends := true, ending := .brings (.message {}) }
        :: everyOutcome.drop 4)
    (Outcome.message {}).Noise { messages := 1, decodeFailures := 1 }
      ∧ plain.ending = .returned everyOutcomeRunStats
      ∧ noisy.ending = .returned { everyOutcomeRunStats with messages := 7, decodeFailures := 3 }
      ∧ List.Forall₂ Call.SameButInstant plain.trace.emissions noisy.trace.emissions := by
  have hnoise : (Outcome.message {}).Noise { messages := 1, decodeFailures := 1 } :=
    .unread (.inl rfl)
  obtain ⟨hplain, hreached⟩ : (unreliable.run everyOutcome).ending = .returned everyOutcomeRunStats
      ∧ (everyOutcome.take 4).length < (unreliable.run everyOutcome).trace.replies.length := by
    decide +kernel
  obtain ⟨hemissions, hending, -, -⟩ := unreliable.isolated_run (fun _ => anHourOn) 3
    (everyOutcome.take 4) (everyOutcome.drop 4) hnoise true
  rw [List.take_append_drop] at hemissions hending
  rw [if_pos hreached, hplain] at hending
  exact ⟨hnoise, hplain, hending, hemissions⟩

end Watch

end IbanWatch
