import IbanWatch.Proofs.Watch.Exchanges
import IbanWatch.Proofs.Watch.Release

/-!
# The order of the calls

What a watch asks of its surroundings goes in rounds.  A round is a poll; it may go on with one
alert that is handed over; and if the emitter took the alert, the round ends with one flush.  A run
is a row of such rounds and then the release of the source, whatever fails, unwinds or asks for the
end.  A round with a flush that was forgotten, repeated or put off cannot be built, and so the rules
on the order of the calls are read off the rounds.

## Main definitions

* `Trace.dealings` — the calls and what they answer, without the log lines.
* `Delivery`, `Handover`, `Round` — an alert that was handed over, and a round.
* `Trace.Orderly` — the rules on the order of the calls.

## Main results

* `dealings_handle`, `dealings_turn`, `dealings_turns` — what is handled, one turn and all turns go
  in rounds.
* `exists_round_of_split` — every occurrence stands in a round or is the release.
* `orderly_of_rounds` — what goes in rounds keeps the rules.
* `orderly_run` — **every run goes in rounds**, and keeps the rules.
-/

namespace IbanWatch

open Text Time Shutdown

/-! ### Dealings -/

/-- Whether the occurrence stands aside from the calls: it is a line of the log, or the count of
refused alerts that is read at the end. -/
def Occurrence.isAside : Occurrence → Bool
  | .log _ | .counted _ => true
  | .call _ | .polled _ _ | .answered _ => false

namespace Trace

/-- The calls of source and emitter with their answers: the row without what stands aside. -/
def dealings (t : Trace) : Trace := t.filter fun x => !x.isAside

@[simp] theorem dealings_append (t u : Trace) : dealings (t ++ u) = dealings t ++ dealings u :=
  List.filter_append _ _

@[simp] theorem dealings_log (l : LogLine) (t : Trace) : dealings (.log l :: t) = dealings t := rfl

theorem calls_dealings (t : Trace) : t.dealings.calls = t.calls := by
  rw [calls, calls, dealings, List.filterMap_filter]
  congr 1
  funext x
  cases x <;> rfl

theorem answered_dealings (t : Trace) : t.dealings.answered = t.answered := by
  rw [answered, answered, dealings, List.filterMap_filter]
  congr 1
  funext x
  cases x <;> rfl

theorem exchanges_dealings (t : Trace) : t.dealings.exchanges = t.exchanges := by
  rw [exchanges, exchanges, emissions, emissions, calls_dealings, answered_dealings]

end Trace

/-! ### Rounds -/

/-- What comes of an alert that is handed over. -/
inductive Delivery where
  /-- The emitter does not take it: the call fails or unwinds.  It is not asked for a flush. -/
  | refused (reply : EmitterReply) (h : reply.ending ≠ .succeeds)
  /-- The emitter takes it, and is asked for a flush, which it answers too. -/
  | taken (reply : EmitterReply) (h : reply.ending = .succeeds) (flushed : EmitterReply)

/-- An alert that is handed over, with what comes of it. -/
structure Handover where
  /-- The key. -/
  key : String
  /-- The payload. -/
  payload : Bytes
  /-- What comes of it. -/
  delivery : Delivery

/-- A round: a poll, and the alert that comes of it, if one does. -/
structure Round where
  /-- The reply of the source. -/
  reply : PollReply
  /-- What the watch sees of it. -/
  seen : Polled
  /-- The alert. -/
  alert : Option Handover

/-- What happens after an alert is handed over. -/
def Delivery.row (settings : Settings) : Delivery → Trace
  | .refused reply _ => [.answered reply]
  | .taken reply _ flushed =>
    [.answered reply, .call (.flush settings.flushTimeout), .answered flushed]

/-- What happens when an alert is handed over. -/
def Handover.row (settings : Settings) (a : Handover) : Trace :=
  .call (.send settings.alertTopic a.key a.payload) :: a.delivery.row settings

/-- What happens in a round. -/
def Round.row (settings : Settings) (r : Round) : Trace :=
  .call (.poll settings.pollTimeout) :: .polled r.reply r.seen
    :: (r.alert.map (Handover.row settings)).getD []

/-- What happens in a row of rounds. -/
def roundsRow (settings : Settings) (rounds : List Round) : Trace :=
  rounds.flatMap (Round.row settings)

theorem roundsRow_append (settings : Settings) (r s : List Round) :
    roundsRow settings (r ++ s) = roundsRow settings r ++ roundsRow settings s :=
  List.flatMap_append

theorem roundsRow_cons (settings : Settings) (r : Round) (rounds : List Round) :
    roundsRow settings (r :: rounds) = r.row settings ++ roundsRow settings rounds := rfl

namespace Watch

/-! ### A run goes in rounds -/

/-- An alert is handed over, and flushed if and only if it was taken. -/
theorem dealings_emit (w : Watch) (event : AuditEvent) :
    ∃ a : Handover, (w.emit event).trace.dealings = a.row w.settings := by
  have hsend : (w.send event).trace = [.call (.send w.settings.alertTopic
      (w.alertFor event).userId (w.alertFor event).encode), .answered w.sendReply] := rfl
  -- The bytes of the payload are put away before the rows are compared: nothing hangs on them.
  by_cases h : w.sendReply.ending = .succeeds
  · refine ⟨⟨(w.alertFor event).userId, (w.alertFor event).encode,
      .taken w.sendReply h (w.send event).watch.countAlert.flushReply⟩, ?_⟩
    rw [emit_of_taken event h, flush_eq]
    simp only [hsend, Trace.dealings_append]
    generalize (w.alertFor event).encode = payload
    rfl
  · refine ⟨⟨(w.alertFor event).userId, (w.alertFor event).encode,
      .refused w.sendReply h⟩, ?_⟩
    rw [emit_of_not_taken event h, hsend]
    generalize (w.alertFor event).encode = payload
    rfl

/-- **Handling an outcome hands over at most one alert**, and does nothing else. -/
theorem dealings_handle (w : Watch) (o : Outcome) :
    ∃ alert : Option Handover, (w.handle o).trace.dealings
      = (alert.map (Handover.row w.settings)).getD [] := by
  have hfollow : ∀ (v : Watch) (r : Reading), ∃ alert : Option Handover,
      (v.follow r).trace.dealings = (alert.map (Handover.row v.settings)).getD [] := by
    intro v r
    cases r with
    | unread text => exact ⟨none, rfl⟩
    | other event => exact ⟨none, rfl⟩
    | valid event => exact ⟨none, rfl⟩
    | suspect event reason =>
      obtain ⟨a, ha⟩ := dealings_emit v.countEvent event
      exact ⟨some a, ha⟩
  cases o with
  | idle => exact ⟨none, rfl⟩
  | partitionEnd => exact ⟨none, rfl⟩
  | failure f => exact ⟨none, rfl⟩
  | message m =>
    obtain ⟨alert, halert⟩ := hfollow w.countMessage m.reading
    refine ⟨alert, ?_⟩
    rw [handle_message]
    cases (w.countMessage.follow m.reading).ending with
    | unwound => exact halert
    | returned result =>
      -- The line that tells of a failure is no dealing.
      have hlines : (failureLines m result).dealings = [] := by
        cases result <;> rfl
      rw [Trace.dealings_append, hlines, List.append_nil]
      exact halert

/-- **A turn is at most one round.** -/
theorem dealings_turn (w : Watch) (reply : PollReply) :
    ∃ rounds : List Round, (w.turn reply).trace.dealings = roundsRow w.settings rounds := by
  have hc := w.turn_course reply
  have hpoll : (w.pollTrace reply).dealings
      = roundsRow w.settings [⟨reply, (reply.poll w.signal).1, none⟩] := rfl
  have hhandle : ∀ o, ∃ rounds : List Round,
      Trace.dealings (w.pollTrace reply ++ ((w.polled reply).handle o).trace)
        = roundsRow w.settings rounds := by
    intro o
    obtain ⟨alert, halert⟩ := dealings_handle (w.polled reply) o
    refine ⟨[⟨reply, (reply.poll w.signal).1, alert⟩], ?_⟩
    rw [Trace.dealings_append, halert, roundsRow_cons]
    exact (List.append_nil _).symm
  -- Every course of a turn that polls is a round, and one that does not poll is none.
  generalize w.turn reply = turn at hc ⊢
  cases hc with
  | closed => exact ⟨[], rfl⟩
  | asked => exact ⟨[], rfl⟩
  | abandoned => exact ⟨_, hpoll⟩
  | unwound => exact ⟨_, hpoll⟩
  | handled => exact hhandle _
  | broken => exact hhandle _

theorem settings_answers (w : Watch) (requests : List Request) :
    (w.answers requests).2.settings = w.settings := by
  induction requests generalizing w with
  | nil => rfl
  | cons r rest ih =>
    have hfirst : (w.answer r).watch.settings = w.settings := by
      cases r with
      | trigger => rfl
      | message m => exact (keeps_process w m).settings
    rw [answers]
    exact (ih (w.answer r).watch).trans hfirst

theorem settings_of_again {w : Watch} {reply : PollReply} (h : (w.turn reply).next = .again) :
    (w.turn reply).watch.settings = w.settings := by
  obtain ⟨o, -, -, -, -, hturn⟩ := turn_of_again h
  rw [hturn]
  exact (keeps_handle (w.polled reply) o).settings

/-- **The turns go in rounds.** -/
theorem dealings_turns (w : Watch) (script : List PollReply) :
    ∃ rounds : List Round, (w.turns script).trace.dealings = roundsRow w.settings rounds :=
  turns_induct (motive := fun w _ t =>
      ∃ rounds : List Round, t.trace.dealings = roundsRow w.settings rounds)
    (fun w reply _ _ => dealings_turn w reply)
    (fun w reply _ rest hn ih => by
      obtain ⟨first, hfirst⟩ := dealings_turn w reply
      obtain ⟨later, hlater⟩ := ih
      rw [settings_of_again hn] at hlater
      exact ⟨first ++ later, by rw [Trace.dealings_append, hfirst, hlater, roundsRow_append]⟩)
    w script

/-- **A run goes in rounds**, and then the source is released. -/
theorem dealings_run {w : Watch} (script : List PollReply) (h : w.phase ≠ .stopped) :
    ∃ rounds : List Round,
      (w.run script).trace.dealings = roundsRow w.settings rounds ++ [.call .close] := by
  have hrelease := stop_snd_of_not_stopped (phase_turns script h)
  have hc := w.run_course script
  obtain ⟨rounds, hrounds⟩ := dealings_turns w script
  refine ⟨rounds, ?_⟩
  rw [← hrounds]
  generalize w.run script = report at hc ⊢
  -- Of what comes before and after the turns, only the release does not stand aside.
  cases hc with
  | left =>
    rw [Trace.dealings_log, Trace.dealings_append, hrelease]
    rfl
  | unwound =>
    rw [Trace.dealings_log, Trace.dealings_append, hrelease]
    rfl

end Watch

/-! ### The rules on the order of the calls -/

/-- The row goes on with the next poll or with the release of the source. -/
def Trace.Resumes (settings : Settings) (t : Trace) : Prop :=
  ∃ c later, t = .call c :: later ∧ (c = .poll settings.pollTimeout ∨ c = .close)

/-- The rules on the order of the calls. -/
structure Trace.Orderly (settings : Settings) (t : Trace) : Prop where
  /-- There are rounds, and at last the release of the source. -/
  rounds : ∃ rounds : List Round, t.dealings = roundsRow settings rounds ++ [.call .close]
  /-- An alert that the emitter takes is followed by its flush before anything else, and this by
  the next poll or the release, whether the flush goes well or not. -/
  taken : ∀ before topic key payload after, t.dealings = before ++ .call (.send topic key payload)
    :: after → ∃ reply later, after = .answered reply :: later ∧
      (reply.ending = .succeeds → ∃ (flushed : EmitterReply) (rest : Trace),
        later = .call (.flush settings.flushTimeout) :: .answered flushed :: rest
          ∧ rest.Resumes settings)
  /-- An alert that the emitter does not take is followed by the next poll or the release. -/
  refused : ∀ before topic key payload reply (later : Trace), t.dealings
    = before ++ .call (.send topic key payload) :: .answered reply :: later →
      reply.ending ≠ .succeeds → later.Resumes settings
  /-- A flush follows an alert that the emitter took, and is nowhere else. -/
  flush : ∀ before timeout after, t.dealings = before ++ .call (.flush timeout) :: after →
    ∃ earlier key payload reply, before
        = earlier ++ [.call (.send settings.alertTopic key payload), .answered reply]
      ∧ reply.ending = .succeeds
  /-- Each poll and each flush may take as long as the settings say. -/
  timeouts : ∀ c ∈ t.calls, (∀ timeout, c = .poll timeout → timeout = settings.pollTimeout)
    ∧ ∀ timeout, c = .flush timeout → timeout = settings.flushTimeout
  /-- There are as many flushes as alerts that the emitter took. -/
  flushes : t.calls.countP Call.isFlush = t.exchanges.countP Exchange.isTaken

theorem resumes_roundsRow (settings : Settings) (rounds : List Round) :
    Trace.Resumes settings (roundsRow settings rounds ++ [.call .close]) := by
  cases rounds with
  | nil => exact ⟨.close, [], rfl, .inr rfl⟩
  | cons r rounds => exact ⟨.poll settings.pollTimeout, _, rfl, .inl rfl⟩

/-- **Every occurrence stands in a round**, unless it is the release of the source. -/
theorem exists_round_of_split {settings : Settings} {rounds : List Round} {before after : Trace}
    {x : Occurrence} (h : roundsRow settings rounds ++ [.call .close] = before ++ x :: after) :
    x = .call .close ∨ ∃ (round : Round) (earlier front back : Trace) (later : List Round),
      round.row settings = front ++ x :: back ∧ before = earlier ++ front
        ∧ after = back ++ (roundsRow settings later ++ [.call .close]) := by
  induction rounds generalizing before with
  | nil =>
    cases before with
    | nil => exact .inl (List.cons_eq_cons.mp h).1.symm
    | cons y before =>
      obtain ⟨-, htail⟩ := List.cons_eq_cons.mp h
      cases before <;> cases htail
  | cons r rounds ih =>
    rw [roundsRow_cons, List.append_assoc] at h
    rcases List.append_eq_append_iff.mp h with ⟨rest, hbefore, hrest⟩ | ⟨rest, hrow, hrest⟩
    · -- The split lies behind the first round.
      rcases ih hrest with hclose | ⟨round, earlier, front, back, later, hround, hfront, hback⟩
      · exact .inl hclose
      · refine .inr ⟨round, r.row settings ++ earlier, front, back, later, hround, ?_, hback⟩
        rw [hbefore, hfront, List.append_assoc]
    · cases rest with
      | nil =>
        rw [List.nil_append] at hrest
        rw [List.append_nil] at hrow
        have hnext : roundsRow settings rounds ++ [.call .close] = [] ++ x :: after := hrest.symm
        rcases ih hnext with
          hclose | ⟨round, earlier, front, back, later, hround, hfront, hback⟩
        · exact .inl hclose
        · refine .inr ⟨round, r.row settings ++ earlier, front, back, later, hround, ?_, hback⟩
          rw [← hrow, List.append_assoc, ← hfront, List.append_nil]
      | cons y rest =>
        -- The split lies in the first round.
        obtain ⟨rfl, rfl⟩ := List.cons_eq_cons.mp hrest
        exact .inr ⟨r, [], before, rest, rounds, hrow, rfl, rfl⟩

theorem exists_front_of_ne {x y : Occurrence} {t front back : Trace}
    (h : y :: t = front ++ x :: back) (hne : y ≠ x) :
    ∃ rest, front = y :: rest ∧ t = rest ++ x :: back := by
  cases front with
  | nil => exact absurd (List.cons_eq_cons.mp h).1 hne
  | cons z front =>
    obtain ⟨rfl, rfl⟩ := List.cons_eq_cons.mp h
    exact ⟨front, rfl, rfl⟩

namespace Round

variable {settings : Settings} {r : Round} {front back : Trace}

/-- A call of the emitter stands behind the poll of its round. -/
theorem exists_alert_of_emission {c : Call} (hc : c.isEmission = true)
    (h : r.row settings = front ++ .call c :: back) :
    ∃ (a : Handover) (rest : Trace), front = .call (.poll settings.pollTimeout)
        :: .polled r.reply r.seen :: rest
      ∧ a.row settings = rest ++ .call c :: back := by
  have hpoll : Occurrence.call (.poll settings.pollTimeout) ≠ .call c := by
    rintro ⟨⟩
    cases hc
  obtain ⟨front₁, rfl, h₁⟩ := exists_front_of_ne h hpoll
  obtain ⟨front₂, rfl, h₂⟩ := exists_front_of_ne h₁ nofun
  cases ha : r.alert with
  | none =>
    rw [ha] at h₂
    exact absurd h₂ (by simp)
  | some a =>
    rw [ha] at h₂
    exact ⟨a, front₂, rfl, h₂⟩

/-- In a round nothing but its delivery comes behind an alert. -/
theorem exists_delivery_of_send {topic key : String} {payload : Bytes}
    (h : r.row settings = front ++ .call (.send topic key payload) :: back) :
    ∃ d : Delivery, back = d.row settings := by
  obtain ⟨a, rest, -, ha⟩ := exists_alert_of_emission rfl h
  refine ⟨a.delivery, ?_⟩
  cases rest with
  | nil => exact (List.cons_eq_cons.mp ha).2.symm
  | cons y rest =>
    -- No second alert stands in the delivery of the first.
    have hmem : .call (.send topic key payload) ∈ a.delivery.row settings := by
      rw [(List.cons_eq_cons.mp ha).2]
      exact List.mem_append_right _ List.mem_cons_self
    cases hd : a.delivery with
    | refused reply hr => simp [hd, Delivery.row] at hmem
    | taken reply hr flushed => simp [hd, Delivery.row] at hmem

/-- In a round a flush comes right behind an alert that was taken. -/
theorem exists_taken_of_flush {timeout : UInt64}
    (h : r.row settings = front ++ .call (.flush timeout) :: back) :
    ∃ earlier key payload reply, front
        = earlier ++ [.call (.send settings.alertTopic key payload), .answered reply]
      ∧ reply.ending = .succeeds := by
  obtain ⟨a, rest, rfl, ha⟩ := exists_alert_of_emission rfl h
  rw [Handover.row] at ha
  obtain ⟨rest₁, rfl, h₁⟩ := exists_front_of_ne ha nofun
  cases hd : a.delivery with
  | refused reply hr =>
    rw [hd] at h₁
    obtain ⟨rest₂, rfl, h₂⟩ := exists_front_of_ne h₁ nofun
    exact absurd h₂ (by simp)
  | taken reply hr flushed =>
    rw [hd] at h₁
    obtain ⟨rest₂, rfl, h₂⟩ := exists_front_of_ne h₁ nofun
    cases rest₂ with
    | nil =>
      exact ⟨[.call (.poll settings.pollTimeout), .polled r.reply r.seen], a.key, a.payload, reply,
        rfl, hr⟩
    | cons y rest₃ =>
      -- The answer of the flush is the last of the round.
      obtain ⟨rest₄, rfl, h₄⟩ := exists_front_of_ne (List.cons_eq_cons.mp h₂).2 nofun
      exact absurd h₄ (by simp)

/-- The three shapes of a round. -/
theorem row_cases (settings : Settings) (r : Round) :
    r.row settings = [.call (.poll settings.pollTimeout), .polled r.reply r.seen]
    ∨ (∃ key payload reply, reply.ending ≠ .succeeds ∧ r.row settings
      = [.call (.poll settings.pollTimeout), .polled r.reply r.seen,
        .call (.send settings.alertTopic key payload), .answered reply])
    ∨ ∃ key payload reply flushed, reply.ending = .succeeds ∧ r.row settings
      = [.call (.poll settings.pollTimeout), .polled r.reply r.seen,
        .call (.send settings.alertTopic key payload), .answered reply,
        .call (.flush settings.flushTimeout), .answered flushed] := by
  obtain ⟨reply, seen, alert⟩ := r
  cases alert with
  | none => exact .inl rfl
  | some a =>
    obtain ⟨key, payload, delivery⟩ := a
    cases delivery with
    | refused answer h => exact .inr (.inl ⟨key, payload, answer, h, rfl⟩)
    | taken answer h flushed => exact .inr (.inr ⟨key, payload, answer, flushed, h, rfl⟩)

theorem timeouts_row (settings : Settings) (r : Round) :
    ∀ c ∈ (r.row settings).calls, (∀ timeout, c = .poll timeout → timeout = settings.pollTimeout)
      ∧ ∀ timeout, c = .flush timeout → timeout = settings.flushTimeout := by
  rcases r.row_cases settings with
    h | ⟨key, payload, reply, -, h⟩ | ⟨key, payload, reply, flushed, -, h⟩
  · simp [h, Trace.calls]
  · simp [h, Trace.calls]
  · simp [h, Trace.calls]

/-- A round has a flush for an alert that the emitter takes, and none for another. -/
theorem flushes_row (settings : Settings) (r : Round) :
    (r.row settings).Paired ∧ (r.row settings).calls.countP Call.isFlush
      = (r.row settings).exchanges.countP Exchange.isTaken := by
  rcases r.row_cases settings with
    h | ⟨key, payload, reply, hrefused, h⟩ | ⟨key, payload, reply, flushed, htaken, h⟩
  -- Neither a poll alone nor an alert that was refused has a flush.
  · rw [h]
    exact ⟨rfl, rfl⟩
  · have hexchanges : (r.row settings).exchanges
        = [⟨.send settings.alertTopic key payload, reply⟩] := by rw [h]; rfl
    refine ⟨by rw [h]; rfl, ?_⟩
    rw [hexchanges, List.countP_singleton, if_neg (by simp [Exchange.isTaken, hrefused]), h]
    rfl
  · have hexchanges : (r.row settings).exchanges
        = [⟨.send settings.alertTopic key payload, reply⟩,
          ⟨.flush settings.flushTimeout, flushed⟩] := by rw [h]; rfl
    refine ⟨by rw [h]; rfl, ?_⟩
    rw [hexchanges, List.countP_cons_of_pos (by simp [Exchange.isTaken, Call.isSend, htaken]), h]
    rfl

end Round

theorem flushes_roundsRow (settings : Settings) (rounds : List Round) :
    (roundsRow settings rounds).Paired ∧ (roundsRow settings rounds).calls.countP Call.isFlush
      = (roundsRow settings rounds).exchanges.countP Exchange.isTaken := by
  induction rounds with
  | nil => exact ⟨rfl, rfl⟩
  | cons r rounds ih =>
    obtain ⟨hpaired, hflushes⟩ := r.flushes_row settings
    rw [roundsRow_cons]
    refine ⟨hpaired.append ih.1, ?_⟩
    rw [Trace.calls_append, Trace.exchanges_append hpaired, List.countP_append,
      List.countP_append, hflushes, ih.2]

/-- **What goes in rounds keeps the rules.** -/
theorem orderly_of_rounds {settings : Settings} {t : Trace} {rounds : List Round}
    (h : t.dealings = roundsRow settings rounds ++ [.call .close]) : t.Orderly settings where
  rounds := ⟨rounds, h⟩
  taken := by
    intro before topic key payload after ht
    rw [h] at ht
    rcases exists_round_of_split ht with hclose | ⟨r, earlier, front, back, later, hr, -, rfl⟩
    · cases hclose
    -- In its round nothing but the delivery is behind the alert, and then the later rounds begin.
    · obtain ⟨d, rfl⟩ := r.exists_delivery_of_send hr
      cases d with
      | refused reply hrefused =>
        exact ⟨reply, _, rfl, fun htaken => absurd htaken hrefused⟩
      | taken reply htaken flushed =>
        exact ⟨reply, _, rfl, fun _ => ⟨flushed, _, rfl, resumes_roundsRow settings later⟩⟩
  refused := by
    intro before topic key payload reply after ht hrefused
    rw [h] at ht
    rcases exists_round_of_split ht with hclose | ⟨r, earlier, front, back, later, hr, -, hafter⟩
    · cases hclose
    · obtain ⟨d, rfl⟩ := r.exists_delivery_of_send hr
      cases d with
      | refused reply' h' =>
        -- The answer is the one of the round, so nothing is left of it.
        obtain ⟨-, rfl⟩ := List.cons_eq_cons.mp hafter
        exact resumes_roundsRow settings later
      | taken reply' htaken flushed =>
        obtain ⟨hreply, -⟩ := List.cons_eq_cons.mp hafter
        cases hreply
        exact absurd htaken hrefused
  flush := by
    intro before timeout after ht
    rw [h] at ht
    rcases exists_round_of_split ht with hclose | ⟨r, earlier, front, back, later, hr, rfl, -⟩
    · cases hclose
    · obtain ⟨rest, key, payload, reply, rfl, htaken⟩ := r.exists_taken_of_flush hr
      exact ⟨earlier ++ rest, key, payload, reply, (List.append_assoc _ _ _).symm, htaken⟩
  timeouts := by
    intro c hc
    rw [← Trace.calls_dealings, h, Trace.calls_append] at hc
    rcases List.mem_append.mp hc with hc | hc
    -- The call is one of a round, or else the release, which has no timeout.
    · obtain ⟨x, hx, hcall⟩ := List.mem_filterMap.mp hc
      obtain ⟨r, -, hr⟩ := List.mem_flatMap.mp hx
      exact r.timeouts_row settings c (List.mem_filterMap.mpr ⟨x, hr, hcall⟩)
    · rw [List.mem_singleton.mp hc]
      exact ⟨nofun, nofun⟩
  flushes := by
    obtain ⟨hpaired, hflushes⟩ := flushes_roundsRow settings rounds
    rw [← Trace.calls_dealings, ← Trace.exchanges_dealings, h, Trace.calls_append,
      Trace.exchanges_append hpaired, List.countP_append, List.countP_append, hflushes]
    rfl

namespace Watch

/-- **Every run goes in rounds**: a poll, perhaps an alert, and its flush if the emitter took it,
again and again, and at last the release of the source.  This is so for every script of the source,
whatever the emitter does, whenever the end is asked for, and whatever messages were handed in
before the run.  So no run ends with an alert that was taken and whose flush was not tried. -/
theorem orderly_run (settings : Settings) (signal : Signal) (emitter : Emitter)
    (clock : Nat → Instant) (requests : List Request) (script : List PollReply) :
    let w := ((fresh settings signal emitter clock).answers requests).2
    (w.run script).trace.Orderly settings := by
  intro w
  have hphase : w.phase ≠ .stopped := by
    rw [phase_answers]
    exact nofun
  have hsettings : w.settings = settings := settings_answers _ requests
  obtain ⟨rounds, hrounds⟩ := dealings_run script hphase
  rw [hsettings] at hrounds
  exact orderly_of_rounds hrounds

end Watch

end IbanWatch
