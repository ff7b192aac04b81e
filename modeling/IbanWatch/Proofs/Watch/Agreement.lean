import IbanWatch.Proofs.Watch.Balance
import IbanWatch.Proofs.Watch.Failures
import IbanWatch.Proofs.Watch.Isolation

/-!
# Messages from outside and messages of a run

A message can be handed in from outside, and then its result is given back; or a run polls it, and
then its result is counted and told.  Both ways go through the same steps: on the same messages, and
with the same answers of the emitter, the same is called, and what a run has counted besides is just
the tally of the results that would have been given back.

## Main definitions

* `ProcessResult` — what came of a message, with the kinds of results that are counted.
* `Stats.ofResults` — the tally of a row of results.
* `PollReply.Plain`, `Watch.Calm` — sources and emitters that leave the trigger alone.

## Main results

* `calm_process` — a message is processed to its end if the emitter does not unwind.
* `handle_ahead_message` — a message of a run is processed, and its result is tallied.
* `agrees_turns` — turns on plain replies do what messages from outside do.
* `run_agrees` — **both ways agree**.
-/

namespace IbanWatch

open Time Shutdown

/-! ### Results and their tally -/

/-- What came of a message. -/
abbrev ProcessResult := Except Failure Verdict

namespace ProcessResult

/-- The message was put aside. -/
def isIgnored : ProcessResult → Bool
  | .ok .ignored => true
  | .ok .validIban | .ok .alertRaised | .error _ => false

/-- The identifier was valid. -/
def isValid : ProcessResult → Bool
  | .ok .validIban => true
  | .ok .ignored | .ok .alertRaised | .error _ => false

/-- The alert could not be delivered, as the failure says. -/
def isUndelivered : ProcessResult → Bool
  | .error f => f.isDelivery
  | .ok _ => false

/-- There was any other failure. -/
def isOtherFailure : ProcessResult → Bool
  | .error f => !f.isDelivery
  | .ok _ => false

end ProcessResult

namespace Stats

/-- The tally of a row of results. -/
def ofResults (results : List ProcessResult) : Stats where
  messages := results.length
  ignoredEvents := results.countP ProcessResult.isIgnored
  validIbans := results.countP ProcessResult.isValid
  deliveryFailures := results.countP ProcessResult.isUndelivered
  decodeFailures := results.countP ProcessResult.isOtherFailure

/-- The counts after one more message with this result. -/
def tally (s : Stats) (result : ProcessResult) : Stats :=
  { s with messages := s.messages + 1 }.record result

theorem tally_plus_ofResults (s : Stats) (result : ProcessResult) (results : List ProcessResult) :
    (s.tally result).plus (ofResults results) = s.plus (ofResults (result :: results)) := by
  have hlast : ∀ a b : Nat, a + 1 + b = a + (b + 1) := by
    intro a b
    omega
  cases result with
  | ok verdict =>
    cases verdict <;> simp [tally, record, plus, ofResults, List.countP_cons,
      ProcessResult.isIgnored, ProcessResult.isValid, ProcessResult.isUndelivered,
      ProcessResult.isOtherFailure, hlast]
  | error f =>
    cases f <;> simp [tally, record, plus, ofResults, List.countP_cons,
      ProcessResult.isIgnored, ProcessResult.isValid, ProcessResult.isUndelivered,
      ProcessResult.isOtherFailure, Failure.isDelivery, hlast]

end Stats

/-! ### Plain replies and calm watches -/

/-- The reply brings a message, the end of a partition or nothing, and leaves the trigger alone. -/
structure PollReply.Plain (reply : PollReply) : Prop where
  /-- It does not fire the trigger. -/
  fires : reply.fires = false
  /-- It does not drop it. -/
  drops : reply.drops = false
  /-- It brings an outcome that is not a failure. -/
  brings : ∃ o, reply.ending = .brings o ∧ o.isFailure = false

/-- The message that the reply brings. -/
def PollReply.message? (reply : PollReply) : Option Message :=
  match reply.ending with
  | .brings o => o.message?
  | .unwinds | .waits | .exhausted => none

/-- Polled for the first time after nobody touched the trigger, the reply asks for the end, and it
brings no message. -/
def PollReply.AsksForEnd (reply : PollReply) : Prop :=
  (reply.poll {}).2.fired = true ∧ ((reply.poll {}).1 = .abandoned
    ∨ (reply.poll {}).1 = .completed .idle ∨ (reply.poll {}).1 = .completed .partitionEnd)

/-- The emitter will neither fire the trigger nor unwind. -/
def Emitter.Calm (e : Emitter) : Prop :=
  ∀ reply ∈ e.sends ++ e.flushes, reply.fires = false ∧ reply.ending ≠ .unwinds

/-- Nobody has fired the trigger, and the emitter will neither fire it nor unwind. -/
structure Watch.Calm (w : Watch) : Prop where
  /-- The trigger was not fired. -/
  fired : w.signal.fired = false
  /-- The emitter is calm. -/
  emitter : w.emitter.Calm

namespace Emitter

theorem sends_learn (e : Emitter) (reply : EmitterReply) : (e.learn reply).sends = e.sends := by
  rw [learn]
  cases reply.ending <;> rfl

theorem flushes_learn (e : Emitter) (reply : EmitterReply) :
    (e.learn reply).flushes = e.flushes := by
  rw [learn]
  cases reply.ending <;> rfl

theorem calm_headD {replies : List EmitterReply}
    (h : ∀ reply ∈ replies, reply.fires = false ∧ reply.ending ≠ .unwinds) :
    (replies.headD {}).fires = false ∧ (replies.headD {}).ending ≠ .unwinds := by
  cases replies with
  | nil => exact ⟨rfl, nofun⟩
  | cons reply replies => exact h reply List.mem_cons_self

theorem Calm.takeSend {e : Emitter} (h : e.Calm) :
    (e.takeSend.1.fires = false ∧ e.takeSend.1.ending ≠ .unwinds) ∧ e.takeSend.2.Calm := by
  refine ⟨calm_headD fun reply hr => h reply (List.mem_append_left _ hr), ?_⟩
  intro reply hr
  rw [Emitter.takeSend, sends_learn, flushes_learn] at hr
  rcases List.mem_append.mp hr with hr | hr
  · exact h reply (List.mem_append_left _ (List.mem_of_mem_tail hr))
  · exact h reply (List.mem_append_right _ hr)

theorem Calm.takeFlush {e : Emitter} (h : e.Calm) :
    (e.takeFlush.1.fires = false ∧ e.takeFlush.1.ending ≠ .unwinds) ∧ e.takeFlush.2.Calm := by
  refine ⟨calm_headD fun reply hr => h reply (List.mem_append_right _ hr), ?_⟩
  intro reply hr
  rw [Emitter.takeFlush, sends_learn, flushes_learn] at hr
  rcases List.mem_append.mp hr with hr | hr
  · exact h reply (List.mem_append_left _ hr)
  · exact h reply (List.mem_append_right _ (List.mem_of_mem_tail hr))

end Emitter

namespace Watch

/-! ### Messages from outside -/

theorem Calm.answered {w : Watch} (h : w.Calm) {reply : EmitterReply} (hr : reply.fires = false)
    {e : Emitter} (he : e.Calm) : (w.answered reply e).Calm := by
  refine ⟨?_, he⟩
  show (moveTrigger reply.fires reply.drops w.signal).fired = false
  rw [fired_moveTrigger, h.fired, hr]
  rfl

theorem exists_returned_of_ne_unwinds {c : CallEnd} (h : c ≠ .unwinds) :
    ∃ result, c.ending = .returned result := by
  cases c with
  | succeeds => exact ⟨_, rfl⟩
  | fails f => exact ⟨_, rfl⟩
  | unwinds => exact absurd rfl h

theorem calm_emit {w : Watch} (h : w.Calm) (event : AuditEvent) :
    (w.emit event).watch.Calm ∧ ∃ result, (w.emit event).ending = .returned result := by
  obtain ⟨⟨hfires, hunwinds⟩, hnext⟩ := h.emitter.takeSend
  have hsent := h.answered hfires hnext
  -- The flush is answered by the emitter as the alert has left it, which is still calm.
  by_cases ht : w.sendReply.ending = .succeeds
  · obtain ⟨⟨hfires', hunwinds'⟩, hnext'⟩ := hnext.takeFlush
    have hflushed := hsent.answered hfires' hnext'
    rw [emit_of_taken event ht]
    exact ⟨⟨hflushed.fired, hflushed.emitter⟩, exists_returned_of_ne_unwinds hunwinds'⟩
  · rw [emit_of_not_taken event ht]
    exact ⟨⟨hsent.fired, hsent.emitter⟩, exists_returned_of_ne_unwinds hunwinds⟩

/-- **A message is processed to its end** if the emitter does not unwind, and the watch stays
calm. -/
theorem calm_process {w : Watch} (h : w.Calm) (m : Message) :
    (w.process m).watch.Calm ∧ ∃ result, (w.process m).ending = .returned result := by
  rw [process_eq_follow]
  cases m.reading with
  | unread text => exact ⟨h, _, rfl⟩
  | other event => exact ⟨h, _, rfl⟩
  | valid event => exact ⟨⟨h.fired, h.emitter⟩, _, rfl⟩
  | suspect event reason =>
    have hcount : w.countEvent.Calm := ⟨h.fired, h.emitter⟩
    obtain ⟨hcalm, result, hresult⟩ := calm_emit hcount event
    refine ⟨hcalm, result.map fun _ => .alertRaised, ?_⟩
    rw [follow, hresult]
    rfl

theorem length_answers (w : Watch) (requests : List Request) :
    (w.answers requests).1.length = requests.length := by
  induction requests generalizing w with
  | nil => rfl
  | cons r rest ih => exact congrArg (· + 1) (ih (w.answer r).watch)

/-- **A message of a run is processed, and its result is tallied.** -/
theorem handle_ahead_message {w : Watch} {m : Message} {result : ProcessResult}
    (h : (w.process m).ending = .returned result) (extra : Stats) :
    (w.ahead extra).handle (.message m) = ⟨.returned (),
      (w.process m).watch.ahead (extra.tally result),
      (w.process m).trace ++ failureLines m result⟩ := by
  have hcount : (w.ahead extra).countMessage
      = w.ahead { extra with messages := extra.messages + 1 } := rfl
  rw [handle, hcount, process_ahead]
  simp only [Report.ahead, h, ahead, Stats.tally, Stats.plus_record]

/-! ### The turns of a run -/

/-- The turns on this script lead from one watch to another, with what happens on the way. -/
def Leads (w : Watch) (script : List PollReply) (heard : Trace) (v : Watch) : Prop :=
  ∀ later, w.turns (script ++ later)
    = ⟨(v.turns later).next, (v.turns later).watch, heard ++ (v.turns later).trace⟩

theorem Leads.nil (w : Watch) : w.Leads [] [] w := fun _ => rfl

theorem Leads.cons {w u v : Watch} {reply : PollReply} {script : List PollReply} {t heard : Trace}
    (hturn : w.turn reply = ⟨.again, u, t⟩) (h : u.Leads script heard v) :
    w.Leads (reply :: script) (t ++ heard) v := by
  intro later
  rw [List.cons_append, turns_cons, hturn, Turn.andThen]
  simp only [h later, List.append_assoc]

/-- The watch `w` comes to `v` when these messages are handed in, with these results, and `heard`
emits the same as what happens then. -/
structure Agrees (w : Watch) (messages : List Message) (results : List ProcessResult)
    (heard : Trace) (v : Watch) : Prop where
  /-- Each message is processed to its end. -/
  results : (w.answers (messages.map .message)).1.map Answer.ending
    = results.map fun result => some (.returned result)
  /-- The same is emitted. -/
  emissions : heard.emissions
    = Trace.emissions ((w.answers (messages.map .message)).1.flatMap (·.trace))
  /-- This is the watch after it. -/
  watch : (w.answers (messages.map .message)).2 = v

namespace Agrees

variable {w v : Watch} {messages : List Message} {results : List ProcessResult} {heard : Trace}

theorem nil (w : Watch) : w.Agrees [] [] [] w := ⟨rfl, rfl, rfl⟩

theorem after_silent (h : w.Agrees messages results heard v) {t : Trace} (ht : t.emissions = []) :
    w.Agrees messages results (t ++ heard) v :=
  ⟨h.results, by rw [Trace.emissions_append, ht, List.nil_append, h.emissions], h.watch⟩

theorem cons {m : Message} {result : ProcessResult} {t : Trace}
    (h : (w.process m).watch.Agrees messages results heard v)
    (hresult : (w.process m).ending = .returned result)
    (ht : t.emissions = (w.process m).trace.emissions) :
    w.Agrees (m :: messages) (result :: results) (t ++ heard) v where
  results := by
    rw [List.map_cons, List.map_cons, ← h.results, ← hresult]
    rfl
  emissions := by
    rw [Trace.emissions_append, ht, h.emissions, ← Trace.emissions_append]
    rfl
  watch := h.watch

end Agrees

/-- **Turns on plain replies do what messages from outside do.**  The watch of the turns has a head
start, which grows by the tally of the results. -/
theorem agrees_turns {w : Watch} (h : w.Calm) (hp : w.phase = .running) (script : List PollReply)
    (hs : ∀ reply ∈ script, reply.Plain) (extra : Stats) :
    ∃ (results : List ProcessResult) (heard : Trace) (v : Watch), v.Calm ∧ v.phase = .running
      ∧ w.Agrees (script.filterMap PollReply.message?) results heard v
      ∧ (w.ahead extra).Leads script heard (v.ahead (extra.plus (.ofResults results))) := by
  induction script generalizing w extra with
  | nil => exact ⟨[], [], w, h, hp, .nil w, .nil _⟩
  | cons reply script ih =>
    obtain ⟨fires, drops, suspends, ending⟩ := reply
    obtain ⟨⟨rfl, rfl, o, rfl, hfailure⟩, htail⟩ := List.forall_mem_cons.mp hs
    have hopen : (w.ahead extra).phase = .running ∧ (w.ahead extra).signal.fired = false :=
      ⟨hp, h.fired⟩
    have hsilent : ∀ lines : List LogLine, Trace.emissions
        ((w.ahead extra).pollTrace { suspends, ending := .brings o } ++ lines.map .log) = [] := by
      intro lines
      rw [Trace.emissions_append]
      simp [Trace.emissions, Trace.calls, pollTrace, Call.isEmission]
    -- Only a message is handed in on the other side; what else a plain reply brings passes.
    cases o with
    | failure f => cases hfailure
    | idle =>
      obtain ⟨results, heard, v, hcalm, hphase, hagrees, hleads⟩ := ih h hp htail extra
      have hturn := turn_of_passes Outcome.passes_idle suspends hopen.1 hopen.2
      exact ⟨results, _, v, hcalm, hphase, hagrees.after_silent (hsilent _), .cons hturn hleads⟩
    | partitionEnd =>
      obtain ⟨results, heard, v, hcalm, hphase, hagrees, hleads⟩ := ih h hp htail extra
      have hturn := turn_of_passes Outcome.passes_partitionEnd suspends hopen.1 hopen.2
      exact ⟨results, _, v, hcalm, hphase, hagrees.after_silent (hsilent _), .cons hturn hleads⟩
    | message m =>
      obtain ⟨hnext, result, hresult⟩ := calm_process h m
      have hrunning : (w.process m).watch.phase = .running := (keeps_process w m).phase.trans hp
      obtain ⟨results, heard, v, hcalm, hphase, hagrees, hleads⟩ :=
        ih hnext hrunning htail (extra.tally result)
      have hturn := turn_of_brings (.message m) suspends hopen.1 hopen.2
      -- The result that is given back on the other side goes to the head start on this one.
      rw [handle_ahead_message hresult extra] at hturn
      rw [Stats.tally_plus_ofResults] at hleads
      have hemissions : Trace.emissions
          ((w.ahead extra).pollTrace { suspends, ending := .brings (.message m) }
            ++ ((w.process m).trace ++ failureLines m result))
          = (w.process m).trace.emissions := by
        have hlines := (failureLines_silent m result).1
        rw [Trace.emissions_append, Trace.emissions_append, hlines, List.append_nil]
        rfl
      exact ⟨result :: results, _, v, hcalm, hphase, hagrees.cons hresult hemissions,
        .cons hturn hleads⟩

/-! ### The run -/

/-- When the source asks for the end, the turns are left, and nothing was emitted or counted. -/
theorem turns_of_asksForEnd {w : Watch} (hp : w.phase = .running) (hsignal : w.signal = {})
    {last : PollReply} (hlast : last.AsksForEnd) (later : List PollReply) :
    (w.turns (last :: later)).next = .leave
      ∧ (w.turns (last :: later)).watch.stats = w.stats
      ∧ (w.turns (last :: later)).trace.emissions = [] := by
  obtain ⟨hfired, hseen⟩ := hlast
  rw [← hsignal] at hfired hseen
  have hpolls : w.turn last = w.pollTurn last := turn_eq_pollTurn hp (by rw [hsignal]) last
  rcases hseen with hs | hs
  -- The poll itself is given up.
  · have hturn : w.turn last
        = ⟨.leave, { w.polled last with phase := .shuttingDown }, w.pollTrace last⟩ := by
      rw [hpolls, pollTurn, hs]
    have hleaves : (w.turn last).next ≠ .again := by
      rw [hturn]
      intro h
      cases h
    rw [turns_cons_of_ne_again hleaves, hturn]
    exact ⟨rfl, rfl, rfl⟩
  · -- The poll is not given up, but by the next turn the end was asked for.
    obtain ⟨o, lines, hs, hpasses⟩ : ∃ o lines, (last.poll w.signal).1 = .completed o
        ∧ o.Passes {} lines := by
      rcases hs with hs | hs
      · exact ⟨_, _, hs, Outcome.passes_idle⟩
      · exact ⟨_, _, hs, Outcome.passes_partitionEnd⟩
    have hturn : w.turn last
        = ⟨.again, w.polled last, w.pollTrace last ++ lines.map .log⟩ := by
      rw [hpolls, pollTurn, hs]
      simp only [hpasses (w.polled last), ahead_zero]
    have hphase : (w.polled last).phase = .running := hp
    rw [turns_cons_of_again (by rw [hturn]), hturn]
    simp only [turns_of_fired later hphase hfired]
    refine ⟨trivial, rfl, ?_⟩
    simp [Trace.emissions, Trace.calls, pollTrace, Call.isEmission]

/-- **Both ways agree.**  Take any messages, and an emitter that succeeds and fails as it likes but
neither unwinds nor fires the trigger.  One fresh watch is handed the messages one after another; a
second one, on whatever clock, runs on a source that brings just these messages, with any number of
polls in between that bring nothing or the end of a partition, and then asks for the end.  Then the
same alerts are handed over and the same flushes made, up to the instants in the alerts, and the
same events and alerts are counted.  What the run counts besides are the messages and the results
that the first watch gave back. -/
theorem run_agrees (settings : Settings) (emitter : Emitter)
    (hemitter : ∀ reply ∈ emitter.sends ++ emitter.flushes,
      reply.fires = false ∧ reply.ending ≠ .unwinds)
    (clock clock' : Nat → Instant) (messages : List Message)
    (hkept : ((fresh settings {} emitter clock).answers (messages.map .message)).2.signal.dropped
      = false)
    (script : List PollReply) (hscript : ∀ reply ∈ script, reply.Plain)
    (hmessages : script.filterMap PollReply.message? = messages)
    {last : PollReply} (hlast : last.AsksForEnd) (later : List PollReply) :
    let byHand := (fresh settings {} emitter clock).answers (messages.map .message)
    let run := (fresh settings {} emitter clock').run (script ++ last :: later)
    ∃ (results : List ProcessResult) (stats : Stats),
      byHand.1.map Answer.ending = results.map (fun result => some (.returned result))
      ∧ run.ending = .returned stats
      ∧ List.Forall₂ Call.SameButInstant (Trace.emissions (byHand.1.flatMap (·.trace)))
        run.trace.emissions
      ∧ stats.ibanEvents = byHand.2.stats.ibanEvents
      ∧ stats.alertsRaised = byHand.2.stats.alertsRaised
      ∧ stats.messages = messages.length
      ∧ stats.ignoredEvents = results.countP ProcessResult.isIgnored
      ∧ stats.validIbans = results.countP ProcessResult.isValid
      ∧ stats.deliveryFailures = results.countP ProcessResult.isUndelivered
      ∧ stats.decodeFailures = results.countP ProcessResult.isOtherFailure := by
  intro byHand run
  have hcalm : (fresh settings {} emitter clock).Calm := ⟨rfl, hemitter⟩
  obtain ⟨results, heard, v, hv, hphase, hagrees, hleads⟩ :=
    agrees_turns hcalm rfl script hscript {}
  rw [hmessages] at hagrees
  rw [ahead_zero] at hleads
  have hwatch : byHand.2 = v := hagrees.watch
  -- Nobody has touched the trigger by then, so the last reply asks for the end.
  have hsignal : v.signal = {} := by
    have hdropped : v.signal.dropped = false := by rw [← hwatch]; exact hkept
    have hfired := hv.fired
    generalize v.signal = s at hdropped hfired ⊢
    obtain ⟨fired, dropped⟩ := s
    cases hdropped
    cases hfired
    rfl
  -- The turns of the run, first on the clock of the first watch.
  have hturns := hleads (last :: later)
  obtain ⟨hnext, hstats, hsilent⟩ :=
    turns_of_asksForEnd (w := v.ahead (Stats.plus {} (.ofResults results))) hphase hsignal hlast
      later
  have hclock : (fresh settings {} emitter clock).SameButClock
      (fresh settings {} emitter clock') := ⟨clock', 0, rfl⟩
  obtain ⟨hending, -, htrace⟩ := alike_run hclock (script ++ last :: later)
  have hemissions := htrace.emissions
  rw [emissions_run, hturns, Trace.emissions_append, hsilent, List.append_nil,
    hagrees.emissions] at hemissions
  have hreturned : ((fresh settings {} emitter clock).run (script ++ last :: later)).ending
      = .returned (v.stats.plus (Stats.plus {} (.ofResults results))) := by
    rw [ending_run_eq, hturns, hnext, hstats, stats_ahead]
  -- Handing in messages counts events and alerts only, so all else is the tally.
  obtain ⟨-, events, alerts, hcounts⟩ :=
    settles_answers (fresh settings {} emitter clock) (messages.map .message)
  -- Each message has one result.
  have hlength : results.length = messages.length := by
    have h := congrArg List.length hagrees.results
    rw [List.length_map, length_answers, List.length_map, List.length_map] at h
    exact h.symm
  have hzero : v.counts.messages = 0 ∧ v.counts.ignoredEvents = 0 ∧ v.counts.validIbans = 0
      ∧ v.counts.deliveryFailures = 0 ∧ v.counts.decodeFailures = 0 := by
    rw [← hwatch]
    show Stats.messages (Watch.counts _) = 0 ∧ _
    rw [hcounts]
    exact ⟨rfl, rfl, rfl, rfl, rfl⟩
  refine ⟨results, _, hagrees.results, hending.trans hreturned, hemissions, ?_⟩
  rw [hwatch, ← hlength]
  simp only [Stats.plus, Stats.ofResults, stats, hzero, Nat.zero_add, Nat.add_zero, and_self]

/-- A deletion marker, an event of another kind, a valid identifier and three that are not. -/
def messagesOfAllKinds : List Message :=
  [{}, telling "LOGIN" "", telling "IBAN_UPDATED" "RO49AAAA1B31007593840000",
    telling "IBAN_UPDATED" "RO0", telling "IBAN_UPDATED" "RO1", telling "IBAN_UPDATED" "RO2"]

/-- A source that brings them one by one, each poll suspended once, and now and then nothing. -/
def suspendedPolls : List PollReply :=
  .bringing .idle :: .bringing .partitionEnd
    :: messagesOfAllKinds.map (fun m => { suspends := true, ending := .brings (.message m) })
      ++ [.bringing .idle]

theorem plain_of_mem_suspendedPolls : ∀ reply ∈ suspendedPolls, reply.Plain := by
  intro reply hr
  rcases List.mem_append.mp hr with hr | hr
  · rcases List.mem_cons.mp hr with rfl | hr
    · exact ⟨rfl, rfl, _, rfl, rfl⟩
    · rcases List.mem_cons.mp hr with rfl | hr
      · exact ⟨rfl, rfl, _, rfl, rfl⟩
      · obtain ⟨m, -, rfl⟩ := List.mem_map.mp hr
        exact ⟨rfl, rfl, _, rfl, rfl⟩
  · rw [List.mem_singleton.mp hr]
    exact ⟨rfl, rfl, _, rfl, rfl⟩

/-- Of three alerts that are handed to an unreliable emitter one is taken and its flush fails, one
is refused and one is taken and flushed.  By hand and in a run the same is called, and a run counts
the rest. -/
theorem run_agrees_unreliable :
    let byHand := unreliable.answers (messagesOfAllKinds.map .message)
    let run := (unreliable.onClock (fun _ => anHourOn) 0).run (suspendedPolls ++ [lastReply])
    (∀ reply ∈ unreliable.emitter.sends ++ unreliable.emitter.flushes,
        reply.fires = false ∧ reply.ending ≠ .unwinds)
      ∧ byHand.2.signal.dropped = false
      ∧ (∀ reply ∈ suspendedPolls, reply.Plain) ∧ lastReply.AsksForEnd
      ∧ List.Forall₂ Call.SameButInstant (Trace.emissions (byHand.1.flatMap (·.trace)))
        run.trace.emissions
      ∧ ∃ stats, run.ending = .returned stats ∧ stats.messages = 6 ∧ stats.ibanEvents = 4 := by
  have hemitter : ∀ reply ∈ unreliable.emitter.sends ++ unreliable.emitter.flushes,
      reply.fires = false ∧ reply.ending ≠ .unwinds := by decide
  obtain ⟨hkept, hevents⟩ :
      (unreliable.answers (messagesOfAllKinds.map .message)).2.signal.dropped = false
      ∧ (unreliable.answers (messagesOfAllKinds.map .message)).2.stats.ibanEvents = 4 := by
    decide +kernel
  have hlast : lastReply.AsksForEnd := ⟨rfl, .inr (.inl rfl)⟩
  obtain ⟨results, stats, -, hending, hemissions, hsame, -, hmessages, -⟩ :=
    run_agrees unreliable.settings unreliable.emitter hemitter unreliable.clock
      (fun _ => anHourOn) messagesOfAllKinds hkept suspendedPolls plain_of_mem_suspendedPolls rfl
      hlast []
  exact ⟨hemitter, hkept, plain_of_mem_suspendedPolls, hlast, hemissions, stats, hending, hmessages,
    hsame.trans hevents⟩

end Watch

end IbanWatch
