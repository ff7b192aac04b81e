import IbanWatch.Proofs.Shutdown.Hearing
import Mathlib.Data.List.TakeWhile

/-!
# Who is woken

A poll that answers that it is pending leaves word, and the first firing or drop of the trigger
wakes everyone who did.  After that nobody is woken any more, since nobody leaves word: whoever asks
then finds the end at once or is past hope.  So whether a waiter was ever woken is told by the
requests before the first that touched the trigger.

## Main definitions

* `Touched`, `untouched` — whether the trigger was fired or dropped, and the requests before that.
* `LeftWord` — a poll of the waiter was pending, and its wait was not given up.
* `Called` — the waiter left word, and the trigger was touched since.
* `Wakes` — who was woken after some requests.

## Main results

* `listed_iff_leftWord` — as long as nobody touches the trigger, those who left word are listed.
* `woken_step`, `woken_later` — afterwards nobody is woken.
* `woken_iff_called` — **a waiter was woken just when it was called for.**
* `wakes_after` — no wake-up is lost.
-/

namespace IbanWatch.Shutdown

/-! ### Before and after the first touch -/

/-- Whether the request fires or drops the trigger. -/
def Request.touches : Request → Bool
  | .fire | .drop => true
  | .check _ | .clone _ | .wait _ | .poll _ | .giveUp _ | .woken _ => false

section Requests

variable (requests : List Request)

/-- The trigger was fired or dropped. -/
def Touched : Prop := ∃ r ∈ requests, r.touches = true

/-- The requests before the first that fires or drops the trigger. -/
def untouched : List Request := requests.takeWhile fun r => !r.touches

/-- A poll of the waiter was pending, and its wait was not given up. -/
def LeftWord (i : Nat) : Prop := Answered requests i .pending ∧ ¬ GivenUp requests i

/-- The waiter left word before the trigger was first fired or dropped, and that has happened
since. -/
def Called (i : Nat) : Prop := Touched requests ∧ LeftWord (untouched requests) i

end Requests

variable {requests : List Request} {i : Nat}

theorem not_touched_untouched (requests : List Request) : ¬ Touched (untouched requests) := by
  rintro ⟨r, hr, ht⟩
  have hnot := List.mem_takeWhile_imp hr
  simp [ht] at hnot

theorem untouched_append_of_touched (h : Touched requests) (later : List Request) :
    untouched (requests ++ later) = untouched requests := by
  obtain ⟨r, hr, ht⟩ := h
  exact takeWhile_append_of_exists ⟨r, hr, by simp [ht]⟩ later

theorem untouched_append_of_not_touched (h : ¬ Touched requests) (later : List Request) :
    untouched (requests ++ later) = requests ++ untouched later := by
  apply List.takeWhile_append_of_pos
  intro r hr
  cases ht : r.touches with
  | true => exact absurd ⟨r, hr, ht⟩ h
  | false => rfl

theorem untouched_of_not_touched (h : ¬ Touched requests) : untouched requests = requests := by
  have happend := untouched_append_of_not_touched h []
  simpa [untouched] using happend

theorem exists_touch (h : Touched requests) : ∃ t later,
    requests = untouched requests ++ t :: later ∧ t.touches = true := by
  induction requests with
  | nil =>
    obtain ⟨r, hr, -⟩ := h
    simp at hr
  | cons r rest ih =>
    cases ht : r.touches with
    | true => exact ⟨r, rest, by simp [untouched, ht], ht⟩
    | false =>
      have hrest : Touched rest := by
        obtain ⟨x, hx, hxt⟩ := h
        rcases List.mem_cons.mp hx with rfl | hx
        · rw [ht] at hxt
          cases hxt
        · exact ⟨x, hx, hxt⟩
      obtain ⟨t, later, hsplit, htouch⟩ := ih hrest
      refine ⟨t, later, ?_, htouch⟩
      have hcons : untouched (r :: rest) = r :: untouched rest := by simp [untouched, ht]
      rw [hcons, List.cons_append, ← hsplit]

theorem untouched_prefix (requests : List Request) : untouched requests <+: requests :=
  List.takeWhile_prefix _

theorem not_fired_of_not_touched (h : ¬ Touched requests) : ¬ Fired requests :=
  fun hf => h ⟨.fire, (List.takeWhile_sublist _).subset hf, rfl⟩

theorem not_dropped_of_not_touched (h : ¬ Touched requests) : ¬ Dropped requests :=
  fun hd => h ⟨.drop, hd, rfl⟩

theorem Answered.append {p : Progress} (h : Answered requests i p) (later : List Request) :
    Answered (requests ++ later) i p := by
  rw [Answered, Channel.history_append]
  exact List.mem_append_left _ h

theorem GivenUp.append (h : GivenUp requests i) (later : List Request) :
    GivenUp (requests ++ later) i := by
  obtain ⟨n, hn⟩ := h
  refine ⟨n, ?_⟩
  rw [Channel.history_append]
  exact List.mem_append_left _ hn

theorem Called.append (h : Called requests i) (later : List Request) :
    Called (requests ++ later) i := by
  obtain ⟨ht, hleft⟩ := h
  refine ⟨?_, ?_⟩
  · obtain ⟨r, hr, htouch⟩ := ht
    exact ⟨r, List.mem_append_left _ hr, htouch⟩
  · rwa [untouched_append_of_touched ht]

/-! ### Histories of one waiter -/

namespace Channel

theorem exists_waiter_of_answered {p : Progress} (h : Answered requests i p) :
    ∃ w, (after {} requests).waiters[i]? = some w := by
  obtain ⟨before, later, rfl, hreply⟩ := mem_history_iff.mp h
  cases hw : (after {} before).waiting? i with
  | none => simp [step, hw] at hreply
  | some w =>
    rw [after_append]
    exact exists_waiter_after (waiting?_eq_some_iff.mp hw).1 _

/-- An abandoned wait stays so. -/
theorem abandoned_after {c : Channel} {w : Waiter} (h : c.waiters[i]? = some w)
    (ha : w.stage = .abandoned) (later : List Request) :
    ∃ v, (c.after later).waiters[i]? = some v ∧ v.stage = .abandoned := by
  induction later generalizing c w with
  | nil => exact ⟨w, h, ha⟩
  | cons r rest ih =>
    refine ih (getElem?_waiters_step h r) ?_
    obtain ⟨l, stage, woken⟩ := w
    cases ha
    cases r <;> simp [Waiter.heed, Waiter.wake, Waiter.poll, Waiter.giveUp]

theorem abandoned_of_givenUp (h : GivenUp requests i) :
    ∃ w, (after {} requests).waiters[i]? = some w ∧ w.stage = .abandoned := by
  obtain ⟨n, h⟩ := h
  obtain ⟨before, later, rfl, hreply⟩ := mem_history_iff.mp h
  cases hw : (after {} before).waiting? i with
  | none => simp [step, hw] at hreply
  | some w =>
    have hin := (waiting?_eq_some_iff.mp hw).1
    rw [after_append, after_cons]
    refine abandoned_after (getElem?_waiters_step hin _) ?_ later
    simp [Waiter.heed, Waiter.giveUp]

/-! ### Before the first touch -/

/-- **As long as nobody touches the trigger**, nobody is woken, and a waiter was never polled, or is
listed since its polls were pending, or was given up. -/
theorem stage_of_not_touched (ht : ¬ Touched requests) {w : Waiter}
    (h : (after {} requests).waiters[i]? = some w) :
    w.woken = false ∧ ((w.stage = .fresh ∧ ¬ Answered requests i .pending)
      ∨ (w.stage = .listed ∧ Answered requests i .pending) ∨ w.stage = .abandoned) := by
  induction requests using List.reverseRecOn generalizing w with
  | nil => simp at h
  | append_singleton rs r ih =>
    have hrs : ¬ Touched rs := fun ⟨x, hx, hxt⟩ => ht ⟨x, List.mem_append_left _ hx, hxt⟩
    have htouch : r.touches = false := by
      cases hr : r.touches with
      | true => exact absurd ⟨r, by simp, hr⟩ ht
      | false => rfl
    have hanswered : ∀ p, Answered (rs ++ [r]) i p ↔ Answered rs i p
        ∨ (r = .poll i ∧ ((after {} rs).step r).1 = .progress p) := by
      intro p
      rw [Answered, history_concat]
      simp [Answered, eq_comm]
    rw [after_append, after_cons, after_nil] at h
    rcases waiter_step_cases h with ⟨v, hv, rfl⟩ | ⟨hi, j, l, rfl, rfl⟩
    · obtain ⟨hwoken, hstage⟩ := ih hrs hv
      -- All but a poll of this waiter, and its end, leave it and its answers alone.
      have hkept : r ≠ .poll i → v.woken = false
          ∧ ((v.stage = .fresh ∧ ¬ Answered (rs ++ [r]) i .pending)
            ∨ (v.stage = .listed ∧ Answered (rs ++ [r]) i .pending) ∨ v.stage = .abandoned) := by
        intro hr
        simpa [hanswered, hr] using ⟨hwoken, hstage⟩
      cases r with
      | fire => cases htouch
      | drop => cases htouch
      | check j => exact hkept (by simp)
      | clone j => exact hkept (by simp)
      | wait j => exact hkept (by simp)
      | woken j => exact hkept (by simp)
      | giveUp j =>
        by_cases hj : j = i
        · simp [Waiter.heed, Waiter.giveUp, hj, hwoken]
        · simpa [Waiter.heed, hj] using hkept (by simp)
      | poll j =>
        by_cases hj : j = i
        · subst hj
          by_cases ha : v.stage = .abandoned
          · simp [Waiter.heed, Waiter.poll, ha, hwoken]
          · have hf : v.stage ≠ .finished := by
              rcases hstage with ⟨hs, -⟩ | ⟨hs, -⟩ | hs <;> simp [hs]
            have hfit := allFit_new.after rs
            have hvalue : (after {} rs).cell.value = false := by
              rw [value_after, decide_eq_false_iff_not]
              exact not_fired_of_not_touched hrs
            have hclosed := closed_of_not_dropped (not_dropped_of_not_touched hrs)
            have hpending : Answered (rs ++ [.poll j]) j .pending := by
              rw [hanswered]
              refine .inr ⟨rfl, ?_⟩
              simp [reply_poll hfit hv hf ha, hvalue]
            have hpoll := Waiter.poll_eq_rest (hfit j v hv) hf ha
            simp [Waiter.heed, hpoll, Waiter.rest, Cell.resting, hvalue, hclosed, hwoken, hpending]
        · have hr : Request.poll j ≠ .poll i := by simpa using hj
          simpa [Waiter.heed, hj] using hkept hr
    · -- A new waiter was not polled before it was there.
      refine ⟨rfl, .inl ⟨rfl, ?_⟩⟩
      rw [hanswered]
      rintro (hin | ⟨hr, -⟩)
      · obtain ⟨v, hv⟩ := exists_waiter_of_answered hin
        have hlt := (List.getElem?_eq_some_iff.mp hv).1
        omega
      · cases hr

/-- As long as nobody touches the trigger, those who left word are listed. -/
theorem listed_iff_leftWord (ht : ¬ Touched requests) {w : Waiter}
    (h : (after {} requests).waiters[i]? = some w) :
    w.stage = .listed ↔ LeftWord requests i := by
  obtain ⟨-, hstage⟩ := stage_of_not_touched ht h
  constructor
  · intro hs
    refine ⟨?_, fun hgiven => ?_⟩
    · simpa [hs] using hstage
    · obtain ⟨v, hv, ha⟩ := abandoned_of_givenUp hgiven
      rw [h] at hv
      cases hv
      rw [hs] at ha
      cases ha
  · rintro ⟨hpending, hgiven⟩
    -- A poll was pending, so the waiter is past its beginning.
    rcases hstage with ⟨-, hnot⟩ | ⟨hs, -⟩ | hs
    · exact absurd hpending hnot
    · exact hs
    · exact absurd ((stage_after h).2 hs) hgiven

/-! ### After it -/

/-- Somebody touched the trigger, as the cell tells. -/
def IsTouched (c : Channel) : Prop := c.cell.value = true ∨ c.cell.closed = true

theorem IsTouched.step {c : Channel} (h : c.IsTouched) (r : Request) :
    (c.step r).2.IsTouched := by
  rw [IsTouched, cell_step]
  cases hc : c.cell.closed with
  | true => simp [hc]
  | false =>
    have hvalue : c.cell.value = true := by simpa [IsTouched, hc] using h
    cases r <;> simp [Cell.write, Cell.close, hvalue]

/-- Once the trigger was touched, a request wakes nobody, and nobody is new and awake. -/
theorem woken_step {c : Channel} (hfit : c.AllFit) (ht : c.IsTouched) {r : Request} {w : Waiter}
    (h : (c.step r).2.waiters[i]? = some w) :
    (∃ v, c.waiters[i]? = some v ∧ w.woken = v.woken)
      ∨ (c.waiters[i]? = none ∧ w.woken = false) := by
  rcases waiter_step_cases h with ⟨v, hv, rfl⟩ | ⟨hi, j, l, -, rfl⟩
  · refine .inl ⟨v, hv, ?_⟩
    -- Nobody has left word in a channel whose trigger was touched.
    have hlisted : v.stage ≠ .listed := by
      intro hs
      have hfits := hfit i v hv
      simp only [Waiter.Fits, hs] at hfits
      rcases ht with ht | ht
      · simp [hfits.1] at ht
      · simp [hfits.2.1] at ht
    have hwake : v.wake = v := by
      rw [Waiter.wake]
      cases hs : v.stage <;> simp [hs] at hlisted ⊢
    -- A poll changes the stage and what was seen, but wakes nobody.
    have hpoll : (v.poll c.cell).2.woken = v.woken := by
      rw [Waiter.poll]
      cases v.stage <;> rfl
    cases r with
    | fire => simp [Waiter.heed, hwake]
    | drop => simp [Waiter.heed, hwake]
    | poll j => by_cases hj : j = i <;> simp [Waiter.heed, hj, hpoll]
    | giveUp j => by_cases hj : j = i <;> simp [Waiter.heed, hj, Waiter.giveUp]
    | check j => rfl
    | clone j => rfl
    | wait j => rfl
    | woken j => rfl
  · exact .inr ⟨List.getElem?_eq_none_iff.mpr (by omega), rfl⟩

/-- **Once the trigger was touched nobody is woken any more**, whatever is asked. -/
theorem woken_later {c : Channel} (hfit : c.AllFit) (ht : c.IsTouched) {later : List Request}
    {w : Waiter} (h : (c.after later).waiters[i]? = some w) :
    (∃ v, c.waiters[i]? = some v ∧ w.woken = v.woken)
      ∨ (c.waiters[i]? = none ∧ w.woken = false) := by
  induction later generalizing c with
  | nil => exact .inl ⟨w, h, rfl⟩
  | cons r rest ih =>
    rcases ih (hfit.step r) (ht.step r) h with ⟨v, hv, hwoken⟩ | ⟨hnone, hwoken⟩
    · rw [hwoken]
      exact woken_step hfit ht hv
    · cases hv : c.waiters[i]? with
      | some v =>
        rw [getElem?_waiters_step hv r] at hnone
        cases hnone
      | none => exact .inr ⟨rfl, hwoken⟩

/-- The first touch wakes a waiter that is there just when it is listed. -/
theorem woken_of_touch {before : List Request} (hnot : ¬ Touched before) {t : Request}
    (htouch : t.touches = true) {v : Waiter} (hv : (after {} before).waiters[i]? = some v) :
    ∃ u, ((after {} before).step t).2.waiters[i]? = some u
      ∧ (u.woken = true ↔ LeftWord before i) := by
  obtain ⟨hasleep, -⟩ := stage_of_not_touched hnot hv
  have hopen := closed_of_not_dropped (not_dropped_of_not_touched hnot)
  have hheed := getElem?_waiters_step hv t
  -- The trigger was not dropped before, so the first touch is heeded by everyone.
  have hwake : v.heed (after {} before).cell i t = v.wake := by
    cases t <;> simp [Request.touches, Waiter.heed, hopen] at htouch ⊢
  rw [hwake] at hheed
  refine ⟨v.wake, hheed, ?_⟩
  rw [← listed_iff_leftWord hnot hv, Waiter.wake]
  cases hs : v.stage <;> simp [hasleep]

/-- The first touch wakes nobody who is not there. -/
theorem not_woken_of_absent {before : List Request} {t : Request}
    (hv : (after {} before).waiters[i]? = none) {u : Waiter}
    (hu : ((after {} before).step t).2.waiters[i]? = some u) : u.woken = false := by
  rcases waiter_step_cases hu with ⟨v, hin, -⟩ | ⟨-, j, l, -, rfl⟩
  · rw [hv] at hin
    cases hin
  · rfl

/-- **A waiter was woken just when it was called for**: it had left word when the trigger was first
fired or dropped. -/
theorem woken_iff_called {w : Waiter} (h : (after {} requests).waiters[i]? = some w) :
    w.woken = true ↔ Called requests i := by
  by_cases ht : Touched requests
  · have hcalled : Called requests i ↔ LeftWord (untouched requests) i := by simp [Called, ht]
    obtain ⟨t, later, hsplit, htouch⟩ := exists_touch ht
    have hnot := not_touched_untouched requests
    have hfit := allFit_new.after (untouched requests)
    have hopen := closed_of_not_dropped (not_dropped_of_not_touched hnot)
    have htouched : ((after {} (untouched requests)).step t).2.IsTouched := by
      rw [IsTouched, cell_step, hopen]
      cases t <;> simp [Request.touches, Cell.write, Cell.close] at htouch ⊢
    rw [hsplit, after_append, after_cons] at h
    rw [hcalled]
    -- What the first touch did to the waiter stays, since nobody is woken later.
    cases hv : (after {} (untouched requests)).waiters[i]? with
    | some v =>
      obtain ⟨u, hu, hwoken⟩ := woken_of_touch hnot htouch hv
      rcases woken_later (hfit.step t) htouched h with ⟨u', hu', heq⟩ | ⟨hnone, -⟩
      · rw [hu] at hu'
        cases hu'
        rw [heq, hwoken]
      · rw [hu] at hnone
        cases hnone
    | none =>
      have hleft : ¬ LeftWord (untouched requests) i := by
        rintro ⟨hpending, -⟩
        obtain ⟨v, hin⟩ := exists_waiter_of_answered hpending
        rw [hv] at hin
        cases hin
      have hasleep : w.woken = false := by
        rcases woken_later (hfit.step t) htouched h with ⟨u, hu, heq⟩ | ⟨-, hw⟩
        · rw [heq, not_woken_of_absent hv hu]
        · exact hw
      simp [hasleep, hleft]
  · obtain ⟨hasleep, -⟩ := stage_of_not_touched ht h
    simp [hasleep, Called, ht]

/-- A pending answer came before the first touch, unless the trigger was dropped. -/
theorem answered_untouched (hd : ¬ Dropped requests) (h : Answered requests i .pending) :
    Answered (untouched requests) i .pending := by
  by_cases ht : Touched requests
  · obtain ⟨t, later, hsplit, htouch⟩ := exists_touch ht
    -- The first touch is no drop, so it is the firing.
    have hfire : t = .fire := by
      cases t with
      | fire => rfl
      | drop => exact absurd (by rw [Dropped, hsplit]; simp) hd
      | _ => cases htouch
    subst hfire
    rw [Answered, hsplit, history_append, List.mem_append] at h
    rcases h with h | h
    · exact h
    · -- After the firing every poll finds it.
      obtain ⟨before, rest, hlater, hreply⟩ := mem_history_iff.mp h
      rw [← after_append] at hreply
      have hfit := allFit_new.after (untouched requests ++ before)
      have hvalue := (value_of_reply_poll hfit hreply).1 rfl
      cases before with
      | nil => cases (List.cons_eq_cons.mp hlater).1
      | cons r before =>
        obtain ⟨rfl, rfl⟩ := List.cons_eq_cons.mp hlater
        have hnot := not_dropped_of_not_touched (not_touched_untouched requests)
        rw [value_after, decide_eq_false_iff_not, fired_append_of_not_dropped hnot] at hvalue
        exact absurd (.inr (by simp [Fired])) hvalue
  · rwa [untouched_of_not_touched ht]

end Channel

/-- Whoever is pending when the trigger is fired is called. -/
theorem called_of_pending (hd : ¬ Dropped requests) (h : LeftWord requests i) :
    Called (requests ++ [.fire]) i := by
  obtain ⟨hpending, hgiven⟩ := h
  by_cases ht : Touched requests
  · -- It was called before, when the trigger was fired for the first time.
    have hcalled : Called requests i := by
      refine ⟨ht, Channel.answered_untouched hd hpending, fun hearly => hgiven ?_⟩
      obtain ⟨rest, hrest⟩ := untouched_prefix requests
      rw [← hrest]
      exact hearly.append rest
    exact hcalled.append _
  · refine ⟨⟨.fire, by simp, rfl⟩, ?_⟩
    have hcut : untouched (requests ++ [.fire]) = requests := by
      rw [untouched_append_of_not_touched ht]
      simp [untouched, Request.touches]
    rw [hcut]
    exact ⟨hpending, hgiven⟩

/-- Whoever is polled only after the trigger was touched is never called. -/
theorem not_called_of_late {t : Request} (ht : t.touches = true)
    (h : ∀ p, ¬ Answered requests i p) (later : List Request) :
    ¬ Called (requests ++ t :: later) i := by
  rintro ⟨-, hpending, -⟩
  have hcut : untouched (requests ++ t :: later) = untouched requests := by
    by_cases hr : Touched requests
    · exact untouched_append_of_touched hr _
    · rw [untouched_append_of_not_touched hr, untouched_of_not_touched hr]
      simp [untouched, ht]
  rw [hcut] at hpending
  obtain ⟨rest, hrest⟩ := untouched_prefix requests
  refine h .pending ?_
  rw [← hrest]
  exact hpending.append rest

/-! ### Wake-ups -/

/-- Who was woken after some requests. -/
structure Wakes (requests : List Request) : Prop where
  /-- A waiter was woken just when a poll of it was pending before the trigger was first fired or
  dropped, and that has happened since.  A wait that was given up before is not woken. -/
  woken : ∀ i, HasWaiter requests i →
    ∃ b, ((Channel.after {} requests).step (.woken i)).1 = .truth b
      ∧ (b = true ↔ Touched requests ∧ Answered (untouched requests) i .pending
        ∧ ¬ GivenUp (untouched requests) i)
  /-- Whoever is pending when the trigger is fired was woken, at any time after that. -/
  fired : ∀ before later i, requests = before ++ .fire :: later → ¬ Dropped before →
    Answered before i .pending → ¬ GivenUp before i →
      ((Channel.after {} requests).step (.woken i)).1 = .truth true
  /-- Whoever is first polled after a firing is ready at once. -/
  ready : ∀ i, Fired requests → HasWaiter requests i → ¬ GivenUp requests i →
    (∀ p, ¬ Answered requests i p) →
      ((Channel.after {} requests).step (.poll i)).1 = .progress .ready
  /-- Whoever is polled only after the trigger was fired or dropped is never woken. -/
  late : ∀ before t later i, requests = before ++ t :: later → t = .fire ∨ t = .drop →
    (∀ p, ¬ Answered before i p) → HasWaiter requests i →
      ((Channel.after {} requests).step (.woken i)).1 = .truth false

theorem reply_woken {w : Waiter} (h : (Channel.after {} requests).waiters[i]? = some w) :
    ((Channel.after {} requests).step (.woken i)).1 = .truth w.woken := by
  simp [Channel.step, h]

/-- **No wake-up is lost**, after any requests, and there is none without reason: however many
others wait, and in whatever order they are polled. -/
theorem wakes_after (requests : List Request) : Wakes requests where
  woken := by
    intro i hi
    obtain ⟨w, hw⟩ := Channel.exists_waiter hi
    exact ⟨w.woken, reply_woken hw, Channel.woken_iff_called hw⟩
  fired := by
    intro before later i hsplit hdropped hpending hgiven
    -- It was called by this firing or before, and stays so.
    have hcalled : Called requests i := by
      have hfire := (called_of_pending hdropped ⟨hpending, hgiven⟩).append later
      rwa [List.append_assoc, List.singleton_append, ← hsplit] at hfire
    obtain ⟨v, hv⟩ := Channel.exists_waiter_of_answered hpending
    obtain ⟨w, hw⟩ := Channel.exists_waiter_after hv (.fire :: later)
    rw [← Channel.after_append, ← hsplit] at hw
    rw [reply_woken hw, (Channel.woken_iff_called hw).mpr hcalled]
  ready := by
    intro i hfired hi hgiven hanswered
    have hpoll := Channel.reply_of_open hi hgiven (hanswered .ready)
    rw [hpoll, if_pos hfired]
  late := by
    intro before t later i hsplit ht hanswered hi
    obtain ⟨w, hw⟩ := Channel.exists_waiter hi
    have htouch : t.touches = true := by
      rcases ht with rfl | rfl <;> rfl
    have hnot : w.woken ≠ true := by
      intro hwoken
      have hcalled := (Channel.woken_iff_called hw).mp hwoken
      rw [hsplit] at hcalled
      exact not_called_of_late htouch hanswered later hcalled
    rw [reply_woken hw]
    simpa using hnot

end IbanWatch.Shutdown
