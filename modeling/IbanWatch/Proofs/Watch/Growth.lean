import IbanWatch.Proofs.Watch.Balance

/-!
# How far the counts go

The counts that a watch keeps itself are natural numbers, where a counter of a machine is a word
that wraps around.  The two agree as long as no count leaves the range of a word, and none does
while fewer requests and replies come in than a word can count: a message or an outcome moves no
count by more than one.

## Main definitions

* `Stats.own` — the counts that a watch keeps itself; the refused alerts are counted by its emitter.
* `Stats.GrowsBy` — no count of one's own goes up by more than a number.

## Main results

* `growsBy_handle`, `growsBy_answer` — an outcome and a request move no count by more than one.
* `own_le_session` — **no count of a session goes beyond the requests and replies that came in.**
* `fits_session` — the counts of a session fit into words.
-/

namespace IbanWatch

open Time Shutdown

namespace Stats

/-- The counts that a watch keeps itself. -/
def own : List (Stats → Nat) :=
  [messages, ignoredEvents, ibanEvents, validIbans, alertsRaised, decodeFailures, transportErrors,
    deliveryFailures]

/-- From `s` to `t` no count of one's own goes up by more than `n`. -/
def GrowsBy (n : Nat) (s t : Stats) : Prop := ∀ count ∈ own, count t ≤ count s + n

theorem GrowsBy.refl (s : Stats) : GrowsBy 0 s s := fun _ _ => Nat.le_refl _

theorem GrowsBy.trans {n m : Nat} {s t u : Stats} (h₁ : GrowsBy n s t) (h₂ : GrowsBy m t u) :
    GrowsBy (n + m) s u := by
  intro count hcount
  have hfirst := h₁ count hcount
  have hsecond := h₂ count hcount
  omega

theorem GrowsBy.mono {n m : Nat} {s t : Stats} (h : GrowsBy n s t) (hnm : n ≤ m) :
    GrowsBy m s t := fun count hcount => (h count hcount).trans (Nat.add_le_add_left hnm _)

/-- A message is counted once, and so are its event, its alert and its result: each of these goes to
a count of its own. -/
theorem growsBy_record {s : Stats} {events alerts : Nat} (hevents : events ≤ s.ibanEvents + 1)
    (halerts : alerts ≤ s.alertsRaised + 1) (result : Except Failure Verdict) :
    GrowsBy 1 s (record { s with
      messages := s.messages + 1, ibanEvents := events, alertsRaised := alerts } result) := by
  cases result with
  | ok verdict => cases verdict <;> simp [GrowsBy, own, record, hevents, halerts]
  | error f => cases f <;> simp [GrowsBy, own, record, hevents, halerts]

/-- What the emitter reports is none of one's own counts. -/
theorem own_reported (s : Stats) (refused : UInt64) :
    ∀ count ∈ own, count { s with rejectedDeliveries := refused } = count s := by
  simp [own]

end Stats

namespace Watch

theorem growsBy_handle (w : Watch) (o : Outcome) :
    Stats.GrowsBy 1 w.counts (w.handle o).watch.counts := by
  cases o with
  | idle => exact (Stats.GrowsBy.refl _).mono (Nat.zero_le 1)
  | partitionEnd => exact (Stats.GrowsBy.refl _).mono (Nat.zero_le 1)
  | failure f => simp [Stats.GrowsBy, Stats.own, handle]
  | message m =>
    -- Unwound or not, following the message has moved the events and the alerts by one at most.
    obtain ⟨events, alerts, hcounts, hevents, halerts⟩ :=
      exists_counts_follow w.countMessage m.reading
    rw [handle_message]
    cases (w.countMessage.follow m.reading).ending with
    | unwound =>
      have hevents' : events ≤ w.counts.ibanEvents + 1 := hevents
      have halerts' : alerts ≤ w.counts.alertsRaised + 1 := halerts
      rw [hcounts]
      simp [Stats.GrowsBy, Stats.own, countMessage, hevents', halerts']
    | returned result =>
      show Stats.GrowsBy 1 w.counts ((w.countMessage.follow m.reading).watch.counts.record result)
      rw [hcounts]
      exact Stats.growsBy_record (s := w.counts) hevents halerts result

theorem growsBy_answer (w : Watch) (r : Request) :
    Stats.GrowsBy 1 w.counts (w.answer r).watch.counts := by
  cases r with
  | trigger => exact (Stats.GrowsBy.refl _).mono (Nat.zero_le 1)
  | message m =>
    obtain ⟨events, alerts, hcounts, hevents, halerts⟩ := exists_counts_follow w m.reading
    rw [answer, process_eq_follow]
    show Stats.GrowsBy 1 w.counts (w.follow m.reading).watch.counts
    rw [hcounts]
    simp [Stats.GrowsBy, Stats.own, hevents, halerts]

theorem growsBy_answers (w : Watch) (requests : List Request) :
    Stats.GrowsBy requests.length w.counts (w.answers requests).2.counts := by
  induction requests generalizing w with
  | nil => exact .refl _
  | cons r rest ih =>
    rw [answers, List.length_cons, Nat.add_comm]
    exact (growsBy_answer w r).trans (ih (w.answer r).watch)

theorem growsBy_turn (w : Watch) (reply : PollReply) :
    Stats.GrowsBy 1 w.counts (w.turn reply).watch.counts := by
  have hquiet := (Stats.GrowsBy.refl w.counts).mono (Nat.zero_le 1)
  have hc := w.turn_course reply
  generalize w.turn reply = turn at hc ⊢
  cases hc with
  | closed => exact hquiet
  | asked => exact hquiet
  | abandoned => exact hquiet
  | unwound => exact hquiet
  | handled => exact growsBy_handle (w.polled reply) _
  | broken => exact growsBy_handle (w.polled reply) _

/-- The turns move no count by more than there are replies, two of the exhausted source included. -/
theorem growsBy_turns (w : Watch) (script : List PollReply) :
    Stats.GrowsBy (script.length + 2) w.counts (w.turns script).watch.counts := by
  -- The induction is over the replies with the exhausted source behind them.
  have h := turns_induct (motive := fun w replies t =>
      Stats.GrowsBy replies.length w.counts t.watch.counts)
    (fun w reply later _ => (growsBy_turn w reply).mono (by simp))
    (fun w reply later rest _ ih => by
      rw [List.length_cons, Nat.add_comm]
      exact (growsBy_turn w reply).trans ih)
    w script
  simpa using h

/-- **No count of a session goes beyond the requests and replies that came in**, the two turns on an
exhausted source with them. -/
theorem own_le_session {settings : Settings} {signal : Signal} {emitter : Emitter}
    {clock : Nat → Instant} {requests : List Request} {script : List PollReply} {stats : Stats}
    (h : ((fresh settings signal emitter clock).session requests (some script)).ending
      = some (.returned stats)) :
    ∀ count ∈ Stats.own, count stats ≤ requests.length + (script.length + 2) := by
  generalize hw : fresh settings signal emitter clock = w at h
  have hzero : ∀ count ∈ Stats.own, count w.counts = 0 := by
    rw [← hw]
    simp [Stats.own, fresh]
  have hreturned : ((w.answers requests).2.run script).ending = .returned stats :=
    Option.some.inj h
  have hstats : stats = ((w.answers requests).2.turns script).watch.stats :=
    (stats_of_returned hreturned).trans (stats_run _ _)
  have hgrows := (growsBy_answers w requests).trans (growsBy_turns (w.answers requests).2 script)
  intro count hcount
  rw [hstats, Watch.stats, Stats.own_reported _ _ count hcount]
  exact (hgrows count hcount).trans (by rw [hzero count hcount, Nat.zero_add])

/-- **The counts of a session fit into words**, unless more comes in than a word can count. -/
theorem fits_session {settings : Settings} {signal : Signal} {emitter : Emitter}
    {clock : Nat → Instant} {requests : List Request} {script : List PollReply} {stats : Stats}
    (h : ((fresh settings signal emitter clock).session requests (some script)).ending
      = some (.returned stats))
    (hfew : requests.length + (script.length + 2) < UInt64.size) :
    ∀ count ∈ Stats.own, (UInt64.ofNat (count stats)).toNat = count stats := fun count hcount =>
  UInt64.toNat_ofNat_of_lt' ((own_le_session h count hcount).trans_lt hfew)

end Watch

end IbanWatch
