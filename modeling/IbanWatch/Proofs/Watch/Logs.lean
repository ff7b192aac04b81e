import IbanWatch.Proofs.Watch.Isolation
import IbanWatch.Proofs.Watch.Failures

/-!
# The log tells what the counts tell

Lines are logged in one place and counts are kept in another: a suspicious identifier is told while
its message is processed, and a failure when the message was handled.  Still each line at the level
of an error or a warning goes with one count, along every run.  And of every message that fails one
line tells where in the stream it stood, as the last line about that message.

The lines about a message are those that were logged while it was handled, so a run is first written
as the row of its outcomes, each with the watch that handles it.

## Main definitions

* `Trace.atLevel` — how many lines of a level were logged.
* `LogLine.place?` — the message that a line names by its place in the stream.
* `Handling`, `Watch.handlings` — an outcome with the watch that handles it, and all of a run.
* `Handling.failure?` — the message that was handled and failed.
* `Watch.Tells` — the lines of a trace go with the counts.
* `Watch.Logged` — what the log of a run tells.

## Main results

* `text_failed` — how the line of a failed message reads.
* `tells_handle`, `tells_turns` — the lines go with the counts, for an outcome and along all turns.
* `recounts_turns` — what happens in the turns is what happens while their outcomes are handled.
* `exists_lines_eq` — the lines about what is handled, of which only the last may name a message.
* `lines_run` — the lines of a run.
* `logged_run` — **the log of a run agrees with its counts**.
-/

namespace IbanWatch

open Text Time Shutdown

/-! ### Lines -/

/-- How many lines of this level were logged. -/
def Trace.atLevel (t : Trace) (level : Level) : Nat := t.lines.countP fun l => l.level = level

theorem Trace.atLevel_append (t u : Trace) (level : Level) :
    (t ++ u).atLevel level = t.atLevel level + u.atLevel level := by
  rw [atLevel, lines_append, List.countP_append, atLevel, atLevel]

theorem Trace.atLevel_of_lines {t : Trace} (h : t.lines = []) (level : Level) :
    t.atLevel level = 0 := by
  rw [atLevel, h]
  rfl

namespace LogLine

/-- The message that a line names, by its part of the stream and its place there. -/
def place? : LogLine → Option (Int × Int)
  | .failed partition offset _ => some (partition, offset)
  | .running _ | .partitionEnd | .streamFailed _ | .received _ | .safe _ | .suspicious _ _
  | .stopping | .stopped _ => none

/-- A message that failed, named by its place, and its failure. -/
def failedAt (partition offset : Int) (f : Failure) : String :=
  s!"message at partition {partition} offset {offset}: {f.message}"

theorem level_failed (partition offset : Int) (f : Failure) :
    (failed partition offset f).level = .error ∨ (failed partition offset f).level = .warn := by
  cases f with
  | delivery problem => exact .inl rfl
  | transport text => exact .inr rfl
  | decode text => exact .inr rfl

theorem cut_lead (lead₁ lead₂ partition offset problem : String) :
    (lead₁ ++ lead₂) ++ partition ++ " offset " ++ offset ++ ": " ++ problem
      = lead₁ ++ (lead₂ ++ partition ++ " offset " ++ offset ++ ": " ++ problem) := by
  simp only [String.append_assoc]

theorem failedAt_eq (partition offset : Int) (f : Failure) : failedAt partition offset f
    = "message at partition " ++ toString partition ++ " offset " ++ toString offset ++ ": "
      ++ f.message := rfl

/-- **How the line of a failed message reads**: it names the message by its place, and says what
went wrong. -/
theorem text_failed (partition offset : Int) (f : Failure) : (failed partition offset f).text
    = (if f.isDelivery then "Failed to deliver fraud alert for " else "Error processing ")
      ++ failedAt partition offset f := by
  have hdelivery : "Failed to deliver fraud alert for message at partition "
      = "Failed to deliver fraud alert for " ++ "message at partition " := by decide +kernel
  have hother : "Error processing message at partition "
      = "Error processing " ++ "message at partition " := by decide +kernel
  -- The texts are only taken apart: to evaluate them on an unknown place gets nowhere.
  cases f with
  | delivery problem =>
    rw [Failure.isDelivery, if_pos rfl, failedAt_eq, ← cut_lead, ← hdelivery, text.eq_def]
    simp only [toString]
  | transport problem =>
    rw [Failure.isDelivery, if_neg Bool.false_ne_true, failedAt_eq, ← cut_lead, ← hother,
      text.eq_def]
    simp only [toString]
  | decode problem =>
    rw [Failure.isDelivery, if_neg Bool.false_ne_true, failedAt_eq, ← cut_lead, ← hother,
      text.eq_def]
    simp only [toString]

end LogLine

namespace Watch

/-! ### One outcome -/

/-- From `w` to `v` this happened, and the lines that tell of errors and warnings went with the
counts: an error with a failure of the stream or of a delivery, a warning with a failure to decode
or a new identifier that is not valid. -/
structure Tells (w : Watch) (t : Trace) (v : Watch) : Prop where
  /-- The errors. -/
  errors : v.counts.transportErrors + v.counts.deliveryFailures
    = w.counts.transportErrors + w.counts.deliveryFailures + t.atLevel .error
  /-- The warnings. -/
  warnings : v.counts.decodeFailures + v.counts.ibanEvents + w.counts.validIbans
    = w.counts.decodeFailures + w.counts.ibanEvents + v.counts.validIbans + t.atLevel .warn
  /-- No more identifiers are valid than there are new ones. -/
  valid : v.counts.validIbans + w.counts.ibanEvents ≤ w.counts.validIbans + v.counts.ibanEvents

theorem Tells.trans {u v w : Watch} {t s : Trace} (h₁ : u.Tells t v) (h₂ : v.Tells s w) :
    u.Tells (t ++ s) w where
  errors := by
    rw [h₂.errors, h₁.errors, Trace.atLevel_append]
    omega
  warnings := by
    have hw₁ := h₁.warnings
    have hw₂ := h₂.warnings
    rw [Trace.atLevel_append]
    omega
  valid := by
    have hv₁ := h₁.valid
    have hv₂ := h₂.valid
    omega

theorem Tells.nil {w v : Watch} {t : Trace} (hc : v.counts = w.counts) (hl : t.lines = []) :
    w.Tells t v := by
  refine ⟨?_, ?_, ?_⟩
  · rw [hc, Trace.atLevel_of_lines hl]
    rfl
  · rw [hc, Trace.atLevel_of_lines hl]
    rfl
  · rw [hc]

theorem lines_emit (w : Watch) (event : AuditEvent) : (w.emit event).trace.lines = [] := by
  by_cases h : w.sendReply.ending = .succeeds
  · rw [emit_of_taken event h]
    rfl
  · rw [emit_of_not_taken event h]
    rfl

theorem exists_counts_emit (w : Watch) (event : AuditEvent) :
    ∃ alerts, (w.emit event).watch.counts = { w.counts with alertsRaised := alerts } := by
  by_cases h : w.sendReply.ending = .succeeds
  · rw [emit_of_taken event h]
    exact ⟨_, rfl⟩
  · rw [emit_of_not_taken event h]
    exact ⟨_, rfl⟩

/-- The lines about an identifier that is not valid, before it is known what became of its alert. -/
theorem lines_follow_suspect (w : Watch) (event : AuditEvent) (reason : Iban.Defect) :
    (w.follow (.suspect event reason)).trace.lines
      = [.received event, .suspicious event reason] := by
  rw [follow]
  show LogLine.received event :: .suspicious event reason
    :: Trace.lines (w.countEvent.emit event).trace = _
  rw [lines_emit]

/-- Before the result of a message is told there is no error, and each warning goes with a new
identifier that is not valid. -/
theorem tells_follow (w : Watch) (r : Reading) :
    (w.follow r).trace.atLevel .error = 0
      ∧ (w.follow r).watch.counts.ibanEvents = w.counts.ibanEvents
        + (w.follow r).trace.atLevel .warn
        + (decide ((w.follow r).ending = .returned (.ok .validIban))).toNat := by
  cases r with
  | unread text => exact ⟨rfl, rfl⟩
  | other event => exact ⟨rfl, rfl⟩
  | valid event => exact ⟨rfl, rfl⟩
  | suspect event reason =>
    obtain ⟨alerts, hcounts⟩ := exists_counts_emit w.countEvent event
    have hlines := lines_follow_suspect w event reason
    -- An alert does not end with a valid identifier, however it goes.
    have hnot : (w.follow (.suspect event reason)).ending ≠ .returned (.ok .validIban) := by
      rw [follow]
      cases (w.countEvent.emit event).ending with
      | unwound => simp [Ending.map]
      | returned result => cases result <;> simp [Ending.map, Except.map]
    rw [Trace.atLevel, Trace.atLevel, hlines, decide_eq_false hnot, follow, hcounts]
    exact ⟨rfl, rfl⟩

/-- **A result is counted and told at once**: a failure by one line, and a valid identifier by
none. -/
theorem tells_record (s : Stats) (m : Message) (result : Except Failure Verdict) :
    (s.record result).transportErrors + (s.record result).deliveryFailures
        = s.transportErrors + s.deliveryFailures + Trace.atLevel (failureLines m result) .error
      ∧ (s.record result).decodeFailures
        = s.decodeFailures + Trace.atLevel (failureLines m result) .warn
      ∧ (s.record result).validIbans
        = s.validIbans + (decide (result = .ok .validIban)).toNat := by
  cases result with
  | ok verdict => cases verdict <;> exact ⟨rfl, rfl, rfl⟩
  | error f => cases f <;> exact ⟨rfl, rfl, rfl⟩

/-- A message that is handled is told: what was counted before its result is known are new
identifiers and alerts, and the result makes up for the identifiers that are valid. -/
theorem tells_message (w : Watch) (m : Message) :
    w.Tells (w.handle (.message m)).trace (w.handle (.message m)).watch := by
  obtain ⟨herrors, hevents⟩ := tells_follow w.countMessage m.reading
  obtain ⟨events, alerts, hcounts, -⟩ := exists_counts_follow w.countMessage m.reading
  rw [handle_message]
  generalize w.countMessage.follow m.reading = report at *
  obtain ⟨ending, watch, trace⟩ := report
  simp only at herrors hevents hcounts ⊢
  obtain ⟨htransport, hdelivery, hdecode, hvalid⟩ :
      watch.counts.transportErrors = w.counts.transportErrors
        ∧ watch.counts.deliveryFailures = w.counts.deliveryFailures
        ∧ watch.counts.decodeFailures = w.counts.decodeFailures
        ∧ watch.counts.validIbans = w.counts.validIbans := by
    rw [hcounts]
    exact ⟨rfl, rfl, rfl, rfl⟩
  have hold : w.countMessage.counts.ibanEvents = w.counts.ibanEvents := rfl
  -- Unwound, the message has no result, so no valid identifier makes up for a new one.
  cases ending with
  | unwound =>
    have hnot : decide ((Ending.unwound : Ending (Except Failure Verdict))
        = .returned (.ok .validIban)) = false := rfl
    rw [hnot, Bool.toNat_false] at hevents
    show w.Tells trace watch
    exact ⟨by omega, by omega, by omega⟩
  | returned result =>
    -- The result tells and counts what following the message has left open.
    obtain ⟨herror, hwarn, hnew⟩ := tells_record watch.counts m result
    have hkept : (watch.counts.record result).ibanEvents = watch.counts.ibanEvents :=
      (records_record watch.counts result).others.2.1
    have hsame : decide ((Ending.returned result : Ending (Except Failure Verdict))
        = .returned (.ok .validIban)) = decide (result = .ok .validIban) :=
      decide_eq_decide.mpr (by rw [Ending.returned.injEq])
    rw [hsame] at hevents
    have hlines := Trace.atLevel_append trace (failureLines m result)
    show w.Tells (trace ++ failureLines m result)
      { watch with counts := watch.counts.record result }
    refine ⟨?_, ?_, ?_⟩
    · rw [hlines]
      simp only
      omega
    · rw [hlines]
      simp only
      omega
    · simp only
      omega

/-- **Handling an outcome tells it.** -/
theorem tells_handle (w : Watch) (o : Outcome) : w.Tells (w.handle o).trace (w.handle o).watch := by
  cases o with
  | idle => exact .nil rfl rfl
  | partitionEnd => exact ⟨rfl, rfl, Nat.le_refl _⟩
  | message m => exact tells_message w m
  | failure f =>
    refine ⟨?_, rfl, Nat.le_refl _⟩
    show w.counts.transportErrors + 1 + w.counts.deliveryFailures
      = w.counts.transportErrors + w.counts.deliveryFailures + 1
    omega

/-- **All turns are told**, however they end. -/
theorem tells_turns (w : Watch) (script : List PollReply) :
    w.Tells (w.turns script).trace (w.turns script).watch :=
  along_turns (R := fun w _ t v => w.Tells t v) (fun hc _ _ _ hl => .nil hc hl) tells_handle
    Tells.trans w script

end Watch

/-! ### The handled outcomes -/

/-- What a poll brought, with the watch that handles it. -/
structure Handling where
  /-- The watch after the poll. -/
  watch : Watch
  /-- What the poll brought. -/
  outcome : Outcome

namespace Handling

/-- The outcome with what happens while it is handled. -/
def episode (h : Handling) : Episode := ⟨h.outcome, (h.watch.handle h.outcome).trace⟩

/-- The lines that are logged while the outcome is handled. -/
def lines (h : Handling) : List LogLine := h.episode.trace.lines

/-- How the message that is handled ends when it is processed. -/
def result? (h : Handling) : Option (Message × Ending (Except Failure Verdict)) :=
  h.outcome.message?.map fun m => (m, (h.watch.countMessage.process m).ending)

/-- The message that is handled, if it fails, and its failure. -/
def failure? (h : Handling) : Option (Message × Failure) :=
  match h.result? with
  | some (m, .returned (.error f)) => some (m, f)
  | some (_, .returned (.ok _)) | some (_, .unwound) | none => none

end Handling

namespace Watch

/-- What is handled in a turn. -/
def handling? (w : Watch) (reply : PollReply) : Option Handling :=
  match w.phase with
  | .shuttingDown | .stopped => none
  | .running =>
    if w.signal.fired then none
    else match (reply.poll w.signal).1 with
      | .completed o => some ⟨w.polled reply, o⟩
      | .abandoned | .unwound => none

/-- What is handled in the turns on these replies of the source, as long as one turn follows
another. -/
def handlings (w : Watch) : List PollReply → List Handling
  | [] => []
  | reply :: later =>
    (w.handling? reply).toList
      ++ match (w.turn reply).next with
        | .again => (w.turn reply).watch.handlings later
        | .leave | .unwound => []

/-- What happened is the handling of these outcomes: the episodes are theirs, and nothing was logged
but by them. -/
structure Recounts (t : Trace) (hs : List Handling) : Prop where
  anew : t.Anew
  episodes : t.episodes = hs.map Handling.episode
  lines : t.lines = hs.flatMap Handling.lines

/-- A turn handles what its poll brought, and logs nothing else. -/
theorem recounts_turn (w : Watch) (reply : PollReply) :
    Recounts (w.turn reply).trace (w.handling? reply).toList := by
  have hanew := anew_turn w reply
  have hc := w.turn_course reply
  generalize w.turn reply = turn at hanew hc ⊢
  -- A turn handles something if and only if its poll was completed.
  cases hc with
  | closed hp =>
    have hnone : w.handling? reply = none := by
      rw [handling?]
      cases hphase : w.phase with
      | running => exact absurd hphase hp
      | shuttingDown => rfl
      | stopped => rfl
    rw [hnone]
    exact ⟨hanew, rfl, rfl⟩
  | asked hp hf =>
    simp only [handling?, hp, hf]
    exact ⟨hanew, rfl, rfl⟩
  | abandoned hp hf hs =>
    simp only [handling?, hp, hf, hs]
    exact ⟨hanew, episodes_pollTrace (by rw [hs]; exact nofun), rfl⟩
  | unwound hp hf hs =>
    simp only [handling?, hp, hf, hs]
    exact ⟨hanew, episodes_pollTrace (by rw [hs]; exact nofun), rfl⟩
  | handled hp hf hs =>
    simp only [handling?, hp, hf, hs]
    exact ⟨hanew, episodes_pollTrace_append hs, (List.append_nil _).symm⟩
  | broken hp hf hs =>
    simp only [handling?, hp, hf, hs]
    exact ⟨hanew, episodes_pollTrace_append hs, (List.append_nil _).symm⟩

/-- **What happens in the turns is what happens while their outcomes are handled.** -/
theorem recounts_turns (w : Watch) (script : List PollReply) :
    Recounts (w.turns script).trace (w.handlings (script ++ [lastReply, lastReply])) :=
  turns_induct (motive := fun w replies t => Recounts t.trace (w.handlings replies))
    (fun w reply later hn => by
      have hlast : w.handlings (reply :: later) = (w.handling? reply).toList := by
        rw [handlings]
        cases hnext : (w.turn reply).next with
        | again => exact absurd hnext hn
        | leave => exact List.append_nil _
        | unwound => exact List.append_nil _
      rw [hlast]
      exact recounts_turn w reply)
    (fun w reply later rest hn ih => by
      have hmore : w.handlings (reply :: later)
          = (w.handling? reply).toList ++ (w.turn reply).watch.handlings later := by
        rw [handlings, hn]
      have hturn := recounts_turn w reply
      rw [hmore]
      -- The later turns begin with a poll, so no episode goes over from the first turn to them.
      refine ⟨?_, ?_, ?_⟩
      · exact (Trace.takeWhile_append_of_anew _ ih.anew).trans hturn.anew
      · rw [Trace.episodes_append _ ih.anew, hturn.episodes, ih.episodes, List.map_append]
      · rw [Trace.lines_append, hturn.lines, ih.lines, List.flatMap_append])
    w script

/-! ### The lines about one message -/

/-- Before a message is handled to its end, no line names it by its place. -/
theorem place?_follow (w : Watch) (r : Reading) :
    ∀ l ∈ (w.follow r).trace.lines, l.place? = none := by
  cases r with
  | unread text => exact fun l hl => absurd hl List.not_mem_nil
  | other event =>
    intro l hl
    rw [List.mem_singleton.mp hl]
    rfl
  | valid event =>
    intro l hl
    rcases List.mem_pair.mp hl with rfl | rfl <;> rfl
  | suspect event reason =>
    intro l hl
    rw [lines_follow_suspect] at hl
    rcases List.mem_pair.mp hl with rfl | rfl <;> rfl

/-- **A message that fails is named by the last line about it, and no other line names one.** -/
theorem exists_lines_eq (h : Handling) : ∃ before, (∀ l ∈ before, l.place? = none)
    ∧ h.lines = before
      ++ h.failure?.toList.map fun (m, f) => .failed m.partition m.offset f := by
  obtain ⟨w, o⟩ := h
  cases o with
  | idle => exact ⟨[], by simp, rfl⟩
  | partitionEnd => exact ⟨[.partitionEnd], by simp [LogLine.place?], rfl⟩
  | failure g => exact ⟨[.streamFailed g], by simp [LogLine.place?], rfl⟩
  | message m =>
    -- A line that names the message is only logged with its result.
    refine ⟨_, place?_follow w.countMessage m.reading, ?_⟩
    simp only [Handling.lines, Handling.episode, Handling.failure?, Handling.result?,
      Outcome.message?, Option.map_some, process_eq_follow, handle_message]
    cases (w.countMessage.follow m.reading).ending with
    | unwound => exact (List.append_nil _).symm
    | returned result =>
      cases result with
      | ok verdict => exact Trace.lines_append _ _
      | error f => exact Trace.lines_append _ _

/-! ### The run -/

/-- What the log of a run tells, whose alerts went to this topic, which handled these outcomes and
ended with these counts. -/
structure Logged (topic : String) (handled : List Handling) (t : Trace) (stats : Stats) :
    Prop where
  /-- Every error goes with one failure of the stream or of a delivery. -/
  errors : t.atLevel .error = stats.transportErrors + stats.deliveryFailures
  /-- Every warning goes with one failure to decode, or one new identifier that is not valid. -/
  warnings : t.atLevel .warn = stats.decodeFailures + (stats.ibanEvents - stats.validIbans)
  /-- No more identifiers are valid than there are new ones. -/
  valid : stats.validIbans ≤ stats.ibanEvents
  /-- What was handled is what the polls brought, and this is what happened meanwhile. -/
  episodes : t.episodes = handled.map Handling.episode
  /-- The log is the lines about what was handled, one after another, but for how it begins and
  ends. -/
  lines : t.lines
    = .running topic :: (handled.flatMap Handling.lines ++ [.stopping, .stopped stats])
  /-- Of every message that failed one line tells, an error or a warning, which names the message by
  its own place and is the last about it. -/
  failures : ∀ h ∈ handled, ∀ m f, h.failure? = some (m, f) →
    ∃ before last, h.lines = before ++ [last] ∧ (∀ l ∈ before, l.place? = none)
      ∧ last.place? = some (m.partition, m.offset) ∧ (last.level = .error ∨ last.level = .warn)
      ∧ ∃ lead, last.text = lead ++ LogLine.failedAt m.partition m.offset f
  /-- No line about anything else names a message. -/
  others : ∀ h ∈ handled, h.failure? = none → ∀ l ∈ h.lines, l.place? = none

theorem lines_stop (w : Watch) : w.stop.2.lines = [] := by
  rw [stop]
  cases w.phase <;> rfl

/-- The lines of a run that is not unwound: those of its turns, between how it begins and ends. -/
theorem lines_run {w : Watch} {script : List PollReply} {stats : Stats}
    (h : (w.run script).ending = .returned stats) : (w.run script).trace.lines
      = .running w.settings.alertTopic
        :: ((w.turns script).trace.lines ++ [.stopping, .stopped stats]) := by
  have hc := w.run_course script
  generalize w.run script = report at hc h ⊢
  cases hc with
  | unwound hn => cases h
  | left hn =>
    cases h
    show _ :: Trace.lines (_ ++ _) = _
    rw [Trace.lines_append]
    show _ :: (_ ++ .stopping :: Trace.lines (_ ++ _)) = _
    rw [Trace.lines_append, lines_stop]
    rfl

/-- How a run begins and ends is told at a level of its own. -/
theorem atLevel_run {w : Watch} {script : List PollReply} {stats : Stats}
    (h : (w.run script).ending = .returned stats) {level : Level} (hinfo : level ≠ .info) :
    (w.run script).trace.atLevel level = (w.turns script).trace.atLevel level := by
  have hclosed : ∀ l : LogLine, l.level = .info → ∀ rest : List LogLine,
      (l :: rest).countP (fun l => l.level = level) = rest.countP fun l => l.level = level := by
    intro l hl rest
    have hnot : ¬ decide (l.level = level) = true :=
      fun hd => hinfo ((of_decide_eq_true hd).symm.trans hl)
    exact List.countP_cons_of_neg hnot
  rw [Trace.atLevel, lines_run h, hclosed _ rfl, List.countP_append, hclosed _ rfl, hclosed _ rfl]
  rfl

/-- **The log of a run agrees with its counts**: no failure is silent, and none is told twice. -/
theorem logged_run (settings : Settings) (signal : Signal) (emitter : Emitter)
    (clock : Nat → Instant) (script : List PollReply) {stats : Stats}
    (h : ((fresh settings signal emitter clock).run script).ending = .returned stats) :
    Logged settings.alertTopic
      ((fresh settings signal emitter clock).handlings (script ++ [lastReply, lastReply]))
      ((fresh settings signal emitter clock).run script).trace stats := by
  have hlines := lines_run h
  have htells := tells_turns (fresh settings signal emitter clock) script
  have hrecounts := recounts_turns (fresh settings signal emitter clock) script
  have hepisodes := episodes_run (fresh settings signal emitter clock) script
  have hstats := (stats_of_returned h).trans (stats_run _ script)
  have hfresh : (fresh settings signal emitter clock).counts = {} := rfl
  have htopic : (fresh settings signal emitter clock).settings.alertTopic = settings.alertTopic :=
    rfl
  generalize fresh settings signal emitter clock = w at *
  have herrors := htells.errors
  have hwarnings := htells.warnings
  have hvalid := htells.valid
  rw [hfresh] at herrors hwarnings hvalid
  rw [hstats] at hlines ⊢
  -- The counts begin at zero, so they are what the turns have added.
  refine ⟨?_, ?_, ?_, hepisodes.trans hrecounts.episodes, ?_, ?_, ?_⟩
  · rw [atLevel_run h (by decide)]
    exact (herrors.trans (Nat.zero_add _)).symm
  · rw [atLevel_run h (by decide)]
    show _ = (w.turns script).watch.counts.decodeFailures
      + ((w.turns script).watch.counts.ibanEvents - (w.turns script).watch.counts.validIbans)
    simp only at hwarnings hvalid
    omega
  · show (w.turns script).watch.counts.validIbans ≤ (w.turns script).watch.counts.ibanEvents
    simp only at hvalid
    omega
  · rw [hlines, hrecounts.lines, htopic]
  · intro handling _ m f hf
    obtain ⟨before, hbefore, hall⟩ := exists_lines_eq handling
    rw [hf] at hall
    exact ⟨before, _, hall, hbefore, rfl, LogLine.level_failed _ _ _, _, LogLine.text_failed _ _ _⟩
  · intro handling _ hf l hl
    obtain ⟨before, hbefore, hall⟩ := exists_lines_eq handling
    rw [hall, hf] at hl
    exact hbefore l (by simpa using hl)

/-- A run in which everything goes wrong once: its log tells of two errors and five warnings. -/
theorem logged_everyOutcome :
    (unreliable.run everyOutcome).ending = .returned everyOutcomeRunStats
      ∧ Logged "fraud-alerts" (unreliable.handlings (everyOutcome ++ [lastReply, lastReply]))
        (unreliable.run everyOutcome).trace everyOutcomeRunStats := by
  have h : (unreliable.run everyOutcome).ending = .returned everyOutcomeRunStats := by
    decide +kernel
  exact ⟨h, logged_run _ _ _ _ _ h⟩

end Watch

end IbanWatch
