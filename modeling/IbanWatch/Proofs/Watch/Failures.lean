import IbanWatch.Proofs.Watch.Undisturbed
import Mathlib.Data.List.TakeWhile

/-!
# Where failures are counted

Two things can fail while a message is handled: it cannot be understood, or the emitter refuses its
alert at once or at the flush.  Each is meant to have a count of its own.  What decides, however, is
the stage that the failure names, not the stage at which it came: a failure of the emitter that does
not call itself one to deliver is counted as one to decode.  Here a run is cut into what happened
for each outcome, the failures are counted there, and the counts of the watch are compared.

## Main definitions

* `Episode`, `Trace.episodes` — an outcome with what happened while it was handled.
* `Episode.unread`, `Episode.alertFailed` — the two ways in which handling a message fails.
* `Episode.misfiled` — the emitter failed, and named another stage than delivery.
* `Watch.Files` — how far the counts of failures went up.

## Main results

* `files_handle`, `files_turns` — the counts go up as the episodes tell, and along all turns.
* `failures_run` — the counts of a run, and when they are right.
* `failures_misfiled` — a run whose counts are not.
-/

namespace IbanWatch

open Text Time Shutdown

/-! ### Episodes -/

/-- Whether the failure names the stage of delivery. -/
def Failure.isDelivery : Failure → Bool
  | .delivery _ => true
  | .transport _ | .decode _ => false

/-- The failure that a call of the emitter ends with. -/
def CallEnd.failure? : CallEnd → Option Failure
  | .fails f => some f
  | .succeeds | .unwinds => none

/-- The failure that the emitter answers with. -/
def Occurrence.failure? : Occurrence → Option Failure
  | .answered reply => reply.ending.failure?
  | .call _ | .polled _ _ | .counted _ | .log _ => none

/-- An outcome of a poll, with what happened while it was handled. -/
structure Episode where
  /-- What the poll brought. -/
  outcome : Outcome
  /-- What happened until it was handled. -/
  trace : Trace

namespace Episode

/-- A message that cannot be understood. -/
def unread (e : Episode) : Bool :=
  match e.outcome with
  | .message m => m.isUnread
  | .idle | .partitionEnd | .failure _ => false

/-- The failure that the emitter answered with. -/
def failure? (e : Episode) : Option Failure := e.trace.findSome? Occurrence.failure?

/-- The emitter answered with a failure. -/
def alertFailed (e : Episode) : Bool := e.failure?.isSome

/-- The emitter answered with a failure that names another stage than delivery. -/
def misfiled (e : Episode) : Bool := e.failure?.any fun f => !f.isDelivery

end Episode

namespace Trace

/-- The outcomes of the polls, each with what happened until it was handled. -/
def episodes : Trace → List Episode
  | [] => []
  | .polled _ (.completed o) :: t => ⟨o, t.takeWhile Occurrence.isInner⟩ :: episodes t
  | .polled _ .abandoned :: t | .polled _ .unwound :: t => episodes t
  | .call _ :: t | .answered _ :: t | .counted _ :: t | .log _ :: t => episodes t

/-- Every outcome has its episode. -/
theorem outcome_episodes (t : Trace) : t.episodes.map Episode.outcome = t.outcomes := by
  induction t with
  | nil => rfl
  | cons x t ih =>
    cases x with
    | call c => exact ih
    | answered reply => exact ih
    | counted refused => exact ih
    | log l => exact ih
    | polled reply seen =>
      cases seen with
      | completed o => exact congrArg (o :: ·) ih
      | abandoned => exact ih
      | unwound => exact ih

theorem episodes_of_quiet {t : Trace} (h : t.Quiet) : t.episodes = [] := by
  have hmap := t.outcome_episodes
  rw [h.outcomes] at hmap
  exact List.map_eq_nil_iff.mp hmap

/-- The row begins with something that does not belong to the handling of an outcome. -/
def Anew (t : Trace) : Prop := t.takeWhile Occurrence.isInner = []

/-- Nothing that begins anew belongs to an episode before it. -/
theorem takeWhile_append_of_anew (t : Trace) {u : Trace} (h : u.Anew) :
    (t ++ u).takeWhile Occurrence.isInner = t.takeWhile Occurrence.isInner := by
  induction t with
  | nil => exact h
  | cons x t ih =>
    rw [List.cons_append, List.takeWhile_cons, List.takeWhile_cons, ih]

theorem episodes_append (t : Trace) {u : Trace} (h : u.Anew) :
    episodes (t ++ u) = episodes t ++ episodes u := by
  induction t with
  | nil => rfl
  | cons x t ih =>
    cases x with
    | call c => exact ih
    | answered reply => exact ih
    | counted refused => exact ih
    | log l => exact ih
    | polled reply seen =>
      cases seen with
      | completed o =>
        -- The episode ends within the first row, since the second begins anew.
        change ⟨o, (t ++ u).takeWhile Occurrence.isInner⟩ :: episodes (t ++ u) = _
        rw [takeWhile_append_of_anew t h, ih]
        rfl
      | abandoned => exact ih
      | unwound => exact ih

end Trace

namespace Watch

theorem episodes_pollTrace {w : Watch} {reply : PollReply}
    (h : ∀ o, (reply.poll w.signal).1 ≠ .completed o) : (w.pollTrace reply).episodes = [] := by
  have hmap := Trace.outcome_episodes (w.pollTrace reply)
  rw [outcomes_pollTrace h] at hmap
  exact List.map_eq_nil_iff.mp hmap

/-- A poll that comes to its end begins an episode, and handling its outcome is all of it. -/
theorem episodes_pollTrace_append {w : Watch} {reply : PollReply} {o : Outcome}
    (h : (reply.poll w.signal).1 = .completed o) :
    Trace.episodes (w.pollTrace reply ++ ((w.polled reply).handle o).trace)
      = [⟨o, ((w.polled reply).handle o).trace⟩] := by
  have hinner : List.takeWhile Occurrence.isInner ((w.polled reply).handle o).trace
      = ((w.polled reply).handle o).trace := List.takeWhile_eq_self_iff.mpr isInner_of_mem_handle
  rw [pollTrace, h]
  change (⟨o, List.takeWhile Occurrence.isInner ((w.polled reply).handle o).trace⟩ : Episode)
    :: Trace.episodes ((w.polled reply).handle o).trace = _
  rw [hinner, Trace.episodes_of_quiet (quiet_handle _ _)]

/-! ### What the counts say -/

/-- From `w` to `v` the counts of failures went up as these episodes tell: a misfiled failure is
counted as one to decode and not as one to deliver. -/
structure Files (w : Watch) (es : List Episode) (v : Watch) : Prop where
  /-- The failures to decode. -/
  decode : v.counts.decodeFailures
    = w.counts.decodeFailures + es.countP Episode.unread + es.countP Episode.misfiled
  /-- The failures to deliver. -/
  delivery : v.counts.deliveryFailures + es.countP Episode.misfiled
    = w.counts.deliveryFailures + es.countP Episode.alertFailed

theorem Files.trans {u v w : Watch} {es fs : List Episode} (h₁ : u.Files es v)
    (h₂ : v.Files fs w) : u.Files (es ++ fs) w where
  decode := by
    rw [h₂.decode, h₁.decode]
    simp only [List.countP_append]
    omega
  delivery := by
    have hd₁ := h₁.delivery
    have hd₂ := h₂.delivery
    simp only [List.countP_append]
    omega

theorem Files.nil {w v : Watch} (hd : v.counts.decodeFailures = w.counts.decodeFailures)
    (hs : v.counts.deliveryFailures = w.counts.deliveryFailures) : w.Files [] v :=
  ⟨hd, hs⟩

/-! ### One outcome -/

theorem findSome?_exchange (c : Call) (reply : EmitterReply) :
    List.findSome? Occurrence.failure? [.call c, .answered reply] = reply.ending.failure? := by
  simp only [List.findSome?_cons, List.findSome?_nil, Occurrence.failure?]
  cases reply.ending.failure? <;> rfl

/-- The failure that an alert ends with is the one that the emitter answered with. -/
theorem failure?_emit (w : Watch) (event : AuditEvent) :
    ∃ e : CallEnd, (w.emit event).ending = e.ending
      ∧ (w.emit event).trace.findSome? Occurrence.failure? = e.failure? := by
  -- An alert that was taken has one failure at most, that of its flush.
  by_cases h : w.sendReply.ending = .succeeds
  · have hsent : CallEnd.failure? w.sendReply.ending = none := by rw [h]; rfl
    rw [emit_of_taken event h]
    refine ⟨_, rfl, ?_⟩
    rw [List.findSome?_append, send_eq, flush_eq, findSome?_exchange, findSome?_exchange, hsent]
    exact Option.none_or
  · rw [emit_of_not_taken event h]
    exact ⟨_, rfl, findSome?_exchange _ _⟩

/-- An alert by itself counts no failure. -/
theorem counts_emit (w : Watch) (event : AuditEvent) :
    (w.emit event).watch.counts.decodeFailures = w.counts.decodeFailures
      ∧ (w.emit event).watch.counts.deliveryFailures = w.counts.deliveryFailures := by
  by_cases h : w.sendReply.ending = .succeeds
  · rw [emit_of_taken event h]
    exact ⟨rfl, rfl⟩
  · rw [emit_of_not_taken event h]
    exact ⟨rfl, rfl⟩

/-- The failure in an episode of a message is the one that the emitter answered with: the line that
tells of it is no answer. -/
theorem failure?_append_failureLines (t : Trace) (m : Message) (result : Except Failure Verdict) :
    (t ++ failureLines m result).findSome? Occurrence.failure?
      = t.findSome? Occurrence.failure? := by
  rw [List.findSome?_append]
  cases result with
  | ok verdict => exact Option.or_none
  | error f => exact Option.or_none

/-- One episode, filed by what it says of itself. -/
theorem files_of_episode {w v : Watch} {e : Episode}
    (hd : v.counts.decodeFailures
      = w.counts.decodeFailures + e.unread.toNat + e.misfiled.toNat)
    (hs : v.counts.deliveryFailures + e.misfiled.toNat
      = w.counts.deliveryFailures + e.alertFailed.toNat) : w.Files [e] v := by
  have hcount : ∀ p : Episode → Bool, [e].countP p = (p e).toNat := by
    intro p
    rw [List.countP_singleton]
    cases p e <;> rfl
  constructor
  · rw [hcount, hcount]
    exact hd
  · rw [hcount, hcount]
    exact hs

/-- An alert is filed by the answer with which it ends. -/
theorem files_suspect (w : Watch) {m : Message} {event : AuditEvent} {reason : Iban.Defect}
    (hr : m.reading = .suspect event reason) :
    w.Files [⟨.message m, (w.handle (.message m)).trace⟩] (w.handle (.message m)).watch := by
  obtain ⟨e, hend, hfail⟩ := failure?_emit w.countMessage.countEvent event
  obtain ⟨hdecode, hdelivery⟩ := counts_emit w.countMessage.countEvent event
  have hunread : ∀ t, Episode.unread ⟨.message m, t⟩ = false := fun t => by
    simp only [Episode.unread, Message.isUnread, hr]
  have hfollow : (w.countMessage.follow (.suspect event reason)).trace.findSome?
      Occurrence.failure? = e.failure? := hfail
  have hresult : (w.countMessage.follow (.suspect event reason)).ending
      = e.ending.map (·.map fun _ => .alertRaised) := by rw [follow, hend]
  have hepisode : ∀ result, Episode.failure? ⟨.message m,
      (w.countMessage.follow (.suspect event reason)).trace ++ failureLines m result⟩
        = e.failure? := fun result => (failure?_append_failureLines _ m result).trans hfollow
  rw [handle_message, hr]
  -- A failure is filed by the stage that it names; without one nothing is filed.
  cases e with
  | succeeds =>
    simp only [hresult, CallEnd.ending, Ending.map, Except.map]
    refine files_of_episode ?_ ?_
    · rw [hunread, Episode.misfiled, hepisode]
      exact hdecode
    · rw [Episode.alertFailed, Episode.misfiled, hepisode]
      exact hdelivery
  | unwinds =>
    simp only [hresult, CallEnd.ending, Ending.map]
    refine files_of_episode ?_ ?_
    · rw [hunread, Episode.misfiled, Episode.failure?, hfollow]
      exact hdecode
    · rw [Episode.alertFailed, Episode.misfiled, Episode.failure?, hfollow]
      exact hdelivery
  | fails f =>
    simp only [hresult, CallEnd.ending, Ending.map, Except.map]
    -- The one place where the stage that the failure names decides which count goes up.
    cases f with
    | delivery problem =>
      refine files_of_episode ?_ ?_
      · rw [hunread, Episode.misfiled, hepisode]
        exact hdecode
      · rw [Episode.alertFailed, Episode.misfiled, hepisode]
        exact congrArg (· + 1) hdelivery
    | transport text =>
      refine files_of_episode ?_ ?_
      · rw [hunread, Episode.misfiled, hepisode]
        exact congrArg (· + 1) hdecode
      · rw [Episode.alertFailed, Episode.misfiled, hepisode]
        exact congrArg (· + 1) hdelivery
    | decode text =>
      refine files_of_episode ?_ ?_
      · rw [hunread, Episode.misfiled, hepisode]
        exact congrArg (· + 1) hdecode
      · rw [Episode.alertFailed, Episode.misfiled, hepisode]
        exact congrArg (· + 1) hdelivery

/-- **Handling an outcome files its episode.** -/
theorem files_handle (w : Watch) (o : Outcome) :
    w.Files [⟨o, (w.handle o).trace⟩] (w.handle o).watch := by
  cases o with
  | idle => exact ⟨rfl, rfl⟩
  | partitionEnd => exact ⟨rfl, rfl⟩
  | failure f => exact ⟨rfl, rfl⟩
  | message m =>
    have hunread : ∀ t, Episode.unread ⟨.message m, t⟩ = m.isUnread := fun t => rfl
    -- Without an alert only a message that cannot be understood is filed.
    cases hr : m.reading with
    | suspect event reason => exact files_suspect w hr
    | unread text =>
      rw [handle_message, hr]
      refine files_of_episode ?_ rfl
      rw [hunread, Message.isUnread, hr]
      rfl
    | other event =>
      rw [handle_message, hr]
      refine files_of_episode ?_ rfl
      rw [hunread, Message.isUnread, hr]
      rfl
    | valid event =>
      rw [handle_message, hr]
      refine files_of_episode ?_ rfl
      rw [hunread, Message.isUnread, hr]
      rfl

/-! ### All turns -/

theorem anew_turn (w : Watch) (reply : PollReply) : (w.turn reply).trace.Anew := by
  have hc := w.turn_course reply
  generalize w.turn reply = turn at hc ⊢
  cases hc with
  | closed => rfl
  | asked => rfl
  | abandoned => rfl
  | unwound => rfl
  | handled => rfl
  | broken => rfl

theorem files_turn (w : Watch) (reply : PollReply) :
    w.Files (w.turn reply).trace.episodes (w.turn reply).watch := by
  have hc := w.turn_course reply
  have hpolled : w.Files [] (w.polled reply) := .nil rfl rfl
  generalize w.turn reply = turn at hc ⊢
  -- A turn has one episode if its poll came to its end, and none otherwise.
  cases hc with
  | closed => exact .nil rfl rfl
  | asked => exact .nil rfl rfl
  | abandoned hp hf hs =>
    rw [episodes_pollTrace (by rw [hs]; exact nofun)]
    exact .nil rfl rfl
  | unwound hp hf hs =>
    rw [episodes_pollTrace (by rw [hs]; exact nofun)]
    exact .nil rfl rfl
  | @handled o hp hf hs hr =>
    rw [episodes_pollTrace_append hs]
    exact hpolled.trans (files_handle (w.polled reply) o)
  | @broken o hp hf hs hr =>
    rw [episodes_pollTrace_append hs]
    exact hpolled.trans (files_handle (w.polled reply) o)

/-- **The turns of a watch file all their episodes**, however they end. -/
theorem files_turns (w : Watch) (script : List PollReply) :
    (w.turns script).trace.Anew ∧
      w.Files (w.turns script).trace.episodes (w.turns script).watch :=
  turns_induct (motive := fun w _ t => t.trace.Anew ∧ w.Files t.trace.episodes t.watch)
    (fun w reply _ _ => ⟨anew_turn w reply, files_turn w reply⟩)
    (fun w reply later rest _ ih => by
      obtain ⟨hanew, hfiles⟩ := ih
      refine ⟨(Trace.takeWhile_append_of_anew _ hanew).trans (anew_turn w reply), ?_⟩
      rw [Trace.episodes_append _ hanew]
      exact (files_turn w reply).trans hfiles)
    w script

/-! ### The run -/

/-- A run handles outcomes only in its turns. -/
theorem episodes_run (w : Watch) (script : List PollReply) :
    (w.run script).trace.episodes = (w.turns script).trace.episodes := by
  obtain ⟨closing, htrace, hclosing, -⟩ := w.trace_run script
  have hquiet : closing.Quiet := fun x hx => isPoll_of_isClosing (hclosing x hx)
  -- The end of a run belongs to no episode, so the last one ends where the turns do.
  have hanew : closing.Anew := by
    cases closing with
    | nil => rfl
    | cons x t =>
      have hx := isInner_of_isClosing (hclosing x List.mem_cons_self)
      rw [Trace.Anew, List.takeWhile_cons_of_neg (by rw [hx]; exact Bool.false_ne_true)]
  rw [htrace]
  change Trace.episodes ((w.turns script).trace ++ closing) = _
  rw [Trace.episodes_append _ hanew, Trace.episodes_of_quiet hquiet, List.append_nil]

/-- **The counts of failures after a run** of a watch that had counted none: a message that cannot
be understood is always counted as one to decode, but a misfiled failure is counted there too, and
missing from those to deliver.  So the counts are right just when nothing is misfiled. -/
theorem failures_run (settings : Settings) (signal : Signal) (emitter : Emitter)
    (clock : Nat → Instant) (script : List PollReply) {stats : Stats}
    (h : ((fresh settings signal emitter clock).run script).ending = .returned stats) :
    let t := ((fresh settings signal emitter clock).run script).trace
    t.episodes.map Episode.outcome = t.outcomes
      ∧ stats.decodeFailures
        = t.episodes.countP Episode.unread + t.episodes.countP Episode.misfiled
      ∧ stats.deliveryFailures + t.episodes.countP Episode.misfiled
        = t.episodes.countP Episode.alertFailed
      ∧ (stats.decodeFailures = t.episodes.countP Episode.unread
          ∧ stats.deliveryFailures = t.episodes.countP Episode.alertFailed
        ↔ ∀ e ∈ t.episodes, e.misfiled = false) := by
  intro t
  have hfiles := (files_turns (fresh settings signal emitter clock) script).2
  rw [← episodes_run] at hfiles
  have hstats := (stats_of_returned h).trans (stats_run _ script)
  have hdecode : stats.decodeFailures
      = t.episodes.countP Episode.unread + t.episodes.countP Episode.misfiled := by
    rw [hstats]
    exact hfiles.decode.trans (by rw [Nat.add_assoc]; exact Nat.zero_add _)
  have hdelivery : stats.deliveryFailures + t.episodes.countP Episode.misfiled
      = t.episodes.countP Episode.alertFailed := by
    rw [hstats]
    exact hfiles.delivery.trans (Nat.zero_add _)
  refine ⟨Trace.outcome_episodes t, hdecode, hdelivery, ?_⟩
  -- Both counts are off by the misfiled failures, so they are right when there are none.
  have hmisfiled : t.episodes.countP Episode.misfiled = 0
      ↔ ∀ e ∈ t.episodes, e.misfiled = false := by
    simp only [List.countP_eq_zero, Bool.not_eq_true]
  rw [← hmisfiled]
  omega

/-- A fresh watch whose emitter refuses the first alert with this failure. -/
def refusing (f : Failure) : Watch :=
  fresh ⟨"fraud-alerts", 10, 10⟩ {} { sends := [{ ending := .fails f }] } fun _ => Instant.epoch

/-- A message with a new identifier that is not valid. -/
def badUpdate : Message :=
  { payload := some (utf8 "\x7b\"EventType\":\"IBAN_UPDATED\",\"UserId\":\"u1\"\x7d") }

/-- A deletion marker fails to decode and a refusal that calls itself one fails to be delivered:
nothing is misfiled. -/
theorem failures_filed :
    ((refusing (.delivery "refused")).run [.bringing (.message {}), .bringing (.message badUpdate)]
        ).ending = .returned
          { messages := 2, ibanEvents := 1, decodeFailures := 1, deliveryFailures := 1 }
      ∧ ∀ e ∈ ((refusing (.delivery "refused")).run
          [.bringing (.message {}), .bringing (.message badUpdate)]).trace.episodes,
        e.misfiled = false := by
  have h : ((refusing (.delivery "refused")).run
      [.bringing (.message {}), .bringing (.message badUpdate)]).ending = .returned
        { messages := 2, ibanEvents := 1, decodeFailures := 1, deliveryFailures := 1 } := by
    decide +kernel
  obtain ⟨-, -, -, hright⟩ := failures_run _ _ _ _ _ h
  exact ⟨h, hright.mp (by decide +kernel)⟩

/-- A refusal that calls itself a failure of transport is counted as one to decode, although every
message could be understood, and is missing from those to deliver. -/
theorem failures_misfiled :
    ∃ stats, ((refusing (.transport "down")).run [.bringing (.message badUpdate)]).ending
        = .returned stats
      ∧ stats.decodeFailures ≠ ((refusing (.transport "down")).run
          [.bringing (.message badUpdate)]).trace.episodes.countP Episode.unread
      ∧ stats.deliveryFailures ≠ ((refusing (.transport "down")).run
          [.bringing (.message badUpdate)]).trace.episodes.countP Episode.alertFailed :=
  ⟨{ messages := 1, ibanEvents := 1, decodeFailures := 1 }, by decide +kernel⟩

end Watch

end IbanWatch
