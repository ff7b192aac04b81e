import IbanWatch.Proofs.Shutdown.Waiting

/-!
# Who hears of the end

Requests to a channel come in any order: the trigger is fired and dropped, listeners are cloned,
waits begin, are polled and are given up.  What a listener or a waiter then answers is told by the
requests before it alone.  The trigger was fired if a request fires it and none before that drops
it, and everyone who asks after that hears of it; nobody hears of anything else, and after a drop
without a firing nobody ever will.

## Main definitions

* `Channel.history` — requests with their replies.
* `Fired`, `Dropped` — what the requests do to the trigger.
* `HasListener`, `HasWaiter`, `GivenUp`, `Answered` — what the replies tell of listeners and
  waiters.
* `Hears` — what is heard after some requests.

## Main results

* `value_after`, `closed_after` — the cell, told by the requests.
* `stage_after` — the end of a wait is in the history.
* `hears_after` — **a firing is heard by everyone, and nothing else is heard by anyone.**
-/

namespace IbanWatch.Shutdown

/-! ### Histories -/

namespace Channel

/-- Requests, each with the reply to it. -/
def history (c : Channel) (requests : List Request) : List (Request × Reply) :=
  requests.zip (c.run requests)

@[simp] theorem history_nil (c : Channel) : c.history [] = [] := rfl

@[simp] theorem history_cons (c : Channel) (r : Request) (rest : List Request) :
    c.history (r :: rest) = (r, (c.step r).1) :: (c.step r).2.history rest := rfl

theorem history_append (c : Channel) (rs ss : List Request) :
    c.history (rs ++ ss) = c.history rs ++ (c.after rs).history ss := by
  induction rs generalizing c with
  | nil => rfl
  | cons r rs ih => simp [ih]

theorem history_concat (c : Channel) (rs : List Request) (r : Request) :
    c.history (rs ++ [r]) = c.history rs ++ [(r, ((c.after rs).step r).1)] := by
  rw [history_append]
  rfl

/-- What stands in a history was replied at some point of it. -/
theorem mem_history_iff {c : Channel} {requests : List Request} {r : Request} {reply : Reply} :
    (r, reply) ∈ c.history requests ↔ ∃ before after, requests = before ++ r :: after
      ∧ ((c.after before).step r).1 = reply := by
  induction requests generalizing c with
  | nil => simp
  | cons s rest ih =>
    rw [history_cons, List.mem_cons, ih]
    constructor
    · rintro (h | ⟨before, later, rfl, h⟩)
      · obtain ⟨rfl, rfl⟩ := Prod.mk.inj h
        exact ⟨[], rest, rfl, rfl⟩
      · exact ⟨s :: before, later, rfl, h⟩
    · rintro ⟨before, later, hsplit, h⟩
      cases before with
      | nil =>
        obtain ⟨rfl, rfl⟩ := List.cons_eq_cons.mp hsplit
        exact .inl (by rw [← h]; rfl)
      | cons x before =>
        obtain ⟨rfl, rfl⟩ := List.cons_eq_cons.mp hsplit
        exact .inr ⟨before, later, rfl, h⟩

end Channel

section Requests

variable (requests : List Request)

/-- The trigger was fired: a request fires it, and none before that drops it. -/
def Fired : Prop := .fire ∈ requests.takeWhile (· ≠ .drop)

/-- The trigger was dropped. -/
def Dropped : Prop := .drop ∈ requests

instance : Decidable (Fired requests) := inferInstanceAs (Decidable (_ ∈ _))

instance : Decidable (Dropped requests) := inferInstanceAs (Decidable (_ ∈ _))

/-- There is a listener of this number: the first one, a clone, or one whose wait was given up. -/
def HasListener (i : Nat) : Prop :=
  i = 0 ∨ ∃ j, (.clone j, .number i) ∈ Channel.history {} requests
    ∨ (.giveUp j, .number i) ∈ Channel.history {} requests

/-- There is a waiter of this number. -/
def HasWaiter (i : Nat) : Prop := ∃ j, (.wait j, .number i) ∈ Channel.history {} requests

/-- The wait of this waiter was given up. -/
def GivenUp (i : Nat) : Prop := ∃ n, (.giveUp i, .number n) ∈ Channel.history {} requests

/-- A poll of this waiter was answered so. -/
def Answered (i : Nat) (p : Progress) : Prop :=
  (.poll i, .progress p) ∈ Channel.history {} requests

end Requests

/-! ### The trigger -/

variable {requests : List Request}

theorem dropped_concat {r : Request} :
    Dropped (requests ++ [r]) ↔ Dropped requests ∨ r = .drop := by
  simp [Dropped, eq_comm]

theorem takeWhile_append_of_exists {α : Type} {p : α → Bool} {l : List α}
    (h : ∃ x ∈ l, p x = false) (m : List α) : (l ++ m).takeWhile p = l.takeWhile p := by
  induction l with
  | nil => simp at h
  | cons y l ih =>
    cases hy : p y with
    | false => simp [hy]
    | true =>
      have htail : ∃ x ∈ l, p x = false := by simpa [hy] using h
      simp [hy, ih htail]

/-- Once the trigger is dropped, it was fired before or never will be. -/
theorem fired_append_of_dropped (h : Dropped requests) (later : List Request) :
    Fired (requests ++ later) ↔ Fired requests := by
  rw [Fired, takeWhile_append_of_exists ⟨.drop, h, by simp⟩, Fired]

theorem fired_append_of_not_dropped (h : ¬ Dropped requests) (later : List Request) :
    Fired (requests ++ later) ↔ .fire ∈ requests ∨ Fired later := by
  have hall : ∀ r ∈ requests, decide (r ≠ .drop) = true := by
    intro r hr
    have hne : r ≠ .drop := by
      rintro rfl
      exact h hr
    simpa using hne
  rw [Fired, List.takeWhile_append_of_pos hall, List.mem_append, Fired]

theorem fired_of_not_dropped (h : ¬ Dropped requests) : Fired requests ↔ .fire ∈ requests := by
  have happend := fired_append_of_not_dropped h []
  simpa [Fired] using happend

theorem fired_concat {r : Request} :
    Fired (requests ++ [r]) ↔ Fired requests ∨ (r = .fire ∧ ¬ Dropped requests) := by
  by_cases hd : Dropped requests
  · rw [fired_append_of_dropped hd]
    simp [hd]
  · rw [fired_append_of_not_dropped hd, fired_of_not_dropped hd]
    cases r <;> simp [Fired, hd]

/-- What requests make of an untouched signal. -/
theorem foldl_heed (requests : List Request) :
    requests.foldl Signal.heed {} = ⟨decide (Fired requests), decide (Dropped requests)⟩ := by
  induction requests using List.reverseRecOn with
  | nil => rfl
  | append_singleton rs r ih =>
    -- Only the last request is new, and whether it fires or drops is told by the ones before.
    rw [List.foldl_append, ih, List.foldl_cons, List.foldl_nil]
    cases r <;> simp [Signal.heed, Signal.fire, Signal.drop, fired_concat, dropped_concat]

namespace Channel

/-- **The cell, told by the requests.** -/
theorem signal_after_new (requests : List Request) :
    (after {} requests).cell.signal = ⟨decide (Fired requests), decide (Dropped requests)⟩ :=
  (signal_after {} requests).trans (foldl_heed requests)

theorem value_after (requests : List Request) :
    (after {} requests).cell.value = decide (Fired requests) :=
  congrArg Signal.fired (signal_after_new requests)

theorem closed_after (requests : List Request) :
    (after {} requests).cell.closed = decide (Dropped requests) :=
  congrArg Signal.dropped (signal_after_new requests)

theorem closed_of_not_dropped (h : ¬ Dropped requests) :
    (after {} requests).cell.closed = false := by
  rw [closed_after, decide_eq_false h]

/-! ### Listeners and waiters -/

theorem length_listeners_step (c : Channel) (r : Request) :
    c.listeners.length ≤ (c.step r).2.listeners.length := by
  cases r with
  | fire => cases hc : c.cell.closed <;> simp [step, fire, hc]
  | drop => cases hc : c.cell.closed <;> simp [step, drop, hc]
  | check j => cases hl : c.listeners[j]? <;> simp [step, hl]
  | clone j => cases hl : c.listeners[j]? <;> simp [step, hl]
  | wait j => cases hl : c.listeners[j]? <;> simp [step, hl]
  | poll j => cases hw : c.waiting? j <;> simp [step, hw]
  | giveUp j => cases hw : c.waiting? j <;> simp [step, hw]
  | woken j => cases hw : c.waiters[j]? <;> simp [step, hw]

theorem length_listeners_after (c : Channel) (requests : List Request) :
    c.listeners.length ≤ (c.after requests).listeners.length := by
  induction requests generalizing c with
  | nil => exact Nat.le_refl _
  | cons r rest ih => exact Nat.le_trans (c.length_listeners_step r) (ih _)

theorem exists_waiter_after {c : Channel} {i : Nat} {w : Waiter} (h : c.waiters[i]? = some w)
    (requests : List Request) : ∃ v, (c.after requests).waiters[i]? = some v := by
  induction requests generalizing c w with
  | nil => exact ⟨w, h⟩
  | cons r rest ih => exact ih (getElem?_waiters_step h r)

/-- The number of a new listener leads to it. -/
theorem exists_listener {i : Nat} (h : HasListener requests i) :
    ∃ l, (after {} requests).listeners[i]? = some l := by
  -- The answer was the number of listeners until then, and there are never fewer again.
  have hlength : i < (after {} requests).listeners.length := by
    rcases h with rfl | ⟨j, h | h⟩
    · exact Nat.lt_of_lt_of_le Nat.zero_lt_one (length_listeners_after {} requests)
    · obtain ⟨before, later, rfl, hreply⟩ := mem_history_iff.mp h
      rw [after_append, after_cons]
      refine Nat.lt_of_lt_of_le ?_ (length_listeners_after _ later)
      cases hl : (after {} before).listeners[j]? with
      | none => simp [step, hl] at hreply
      | some l =>
        simp only [step, hl, Reply.number.injEq] at hreply
        simp [step, hl, ← hreply]
    · obtain ⟨before, later, rfl, hreply⟩ := mem_history_iff.mp h
      rw [after_append, after_cons]
      refine Nat.lt_of_lt_of_le ?_ (length_listeners_after _ later)
      cases hw : (after {} before).waiting? j with
      | none => simp [step, hw] at hreply
      | some w =>
        simp only [step, hw, Reply.number.injEq] at hreply
        simp [step, hw, ← hreply]
  exact ⟨_, List.getElem?_eq_getElem hlength⟩

theorem exists_waiter {i : Nat} (h : HasWaiter requests i) :
    ∃ w, (after {} requests).waiters[i]? = some w := by
  obtain ⟨j, h⟩ := h
  obtain ⟨before, later, rfl, hreply⟩ := mem_history_iff.mp h
  rw [after_append, after_cons]
  cases hl : (after {} before).listeners[j]? with
  | none => simp [step, hl] at hreply
  | some l =>
    simp only [step, hl, Reply.number.injEq] at hreply
    refine exists_waiter_after (w := { listener := l }) ?_ later
    simp [step, hl, ← hreply]

/-- **The end of a wait is in the history**: a wait ends by the answer that it is ready, or is given
up. -/
theorem stage_after {i : Nat} {w : Waiter} (h : (after {} requests).waiters[i]? = some w) :
    (w.stage = .finished → Answered requests i .ready)
      ∧ (w.stage = .abandoned → GivenUp requests i) := by
  induction requests using List.reverseRecOn generalizing w with
  | nil => simp at h
  | append_singleton rs r ih =>
    -- What stood in the history before stands there still.
    have hready : Answered rs i .ready → Answered (rs ++ [r]) i .ready := by
      intro hin
      rw [Answered, history_concat]
      exact List.mem_append_left _ hin
    have hgiven : GivenUp rs i → GivenUp (rs ++ [r]) i := by
      rintro ⟨n, hin⟩
      refine ⟨n, ?_⟩
      rw [history_concat]
      exact List.mem_append_left _ hin
    rw [after_append, after_cons, after_nil] at h
    rcases waiter_step_cases h with ⟨v, hv, rfl⟩ | ⟨-, j, l, -, rfl⟩
    · obtain ⟨hf, ha⟩ := ih hv
      have hfits := allFit_new.after rs i v hv
      have hkept : (v.stage = .finished → Answered (rs ++ [r]) i .ready)
          ∧ (v.stage = .abandoned → GivenUp (rs ++ [r]) i) :=
        ⟨fun hs => hready (hf hs), fun hs => hgiven (ha hs)⟩
      -- Waking somebody neither ends a wait nor gives it up.
      have hwake : (v.wake.stage = .finished → v.stage = .finished)
          ∧ (v.wake.stage = .abandoned → v.stage = .abandoned) := by
        rw [Waiter.wake]
        cases hs : v.stage <;> simp [hs]
      cases r with
      | fire =>
        simp only [Waiter.heed]
        split
        · exact hkept
        · exact ⟨fun hs => hkept.1 (hwake.1 hs), fun hs => hkept.2 (hwake.2 hs)⟩
      | drop =>
        simp only [Waiter.heed]
        split
        · exact hkept
        · exact ⟨fun hs => hkept.1 (hwake.1 hs), fun hs => hkept.2 (hwake.2 hs)⟩
      | poll j =>
        by_cases hj : j = i
        · subst hj
          obtain ⟨hstage, habandoned⟩ := Waiter.stage_poll hfits
          simp only [Waiter.heed, if_true]
          refine ⟨fun hs => ?_, fun hs => hkept.2 (habandoned hs)⟩
          rcases hstage hs with hs | ⟨hna, hanswer⟩
          · exact hkept.1 hs
          · have hw := waiting?_eq_some_iff.mpr ⟨hv, hna⟩
            rw [Answered, history_concat]
            simp [step, hw, hanswer]
        · simpa [Waiter.heed, hj] using hkept
      | giveUp j =>
        by_cases hj : j = i
        · subst hj
          by_cases hna : v.stage = .abandoned
          · simpa [Waiter.heed, Waiter.giveUp] using hkept.2 hna
          · have hw := waiting?_eq_some_iff.mpr ⟨hv, hna⟩
            have hin : GivenUp (rs ++ [.giveUp j]) j := by
              refine ⟨(after {} rs).listeners.length, ?_⟩
              rw [history_concat]
              simp [step, hw]
            simpa [Waiter.heed, Waiter.giveUp] using hin
        · simpa [Waiter.heed, hj] using hkept
      | check j => exact hkept
      | clone j => exact hkept
      | wait j => exact hkept
      | woken j => exact hkept
    · constructor <;> intro hs <;> cases hs

theorem reply_poll {c : Channel} (hfit : c.AllFit) {i : Nat} {w : Waiter}
    (hw : c.waiters[i]? = some w) (hf : w.stage ≠ .finished) (ha : w.stage ≠ .abandoned) :
    (c.step (.poll i)).1 = .progress (if c.cell.value then .ready else .pending) := by
  have hpoll := Waiter.poll_eq_rest (hfit i w hw) hf ha
  have hwaiting := waiting?_eq_some_iff.mpr ⟨hw, ha⟩
  simp only [step, hwaiting, hpoll, Waiter.rest, Cell.resting_eq_finished_iff]

/-- **The reply to a poll of a wait that has not ended**, told by the requests. -/
theorem reply_of_open {i : Nat} (hi : HasWaiter requests i) (hgiven : ¬ GivenUp requests i)
    (hready : ¬ Answered requests i .ready) : ((after {} requests).step (.poll i)).1
      = .progress (if Fired requests then .ready else .pending) := by
  obtain ⟨w, hw⟩ := exists_waiter hi
  obtain ⟨hfinished, habandoned⟩ := stage_after hw
  have hf : w.stage ≠ .finished := fun hs => hready (hfinished hs)
  have ha : w.stage ≠ .abandoned := fun hs => hgiven (habandoned hs)
  rw [reply_poll (allFit_new.after requests) hw hf ha, value_after]
  simp only [decide_eq_true_eq]

/-- A poll answers that it is pending or ready only as the cell says. -/
theorem value_of_reply_poll {c : Channel} (hfit : c.AllFit) {i : Nat} {p : Progress}
    (h : (c.step (.poll i)).1 = .progress p) :
    (p = .pending → c.cell.value = false) ∧ (p ≠ .pending → c.cell.value = true) := by
  cases hw : c.waiting? i with
  | none => simp [step, hw] at h
  | some w =>
    obtain ⟨hin, ha⟩ := waiting?_eq_some_iff.mp hw
    by_cases hf : w.stage = .finished
    · have hvalue : c.cell.value = true := by simpa [Waiter.Fits, hf] using hfit i w hin
      -- A wait that has ended was ready once, and the trigger stays fired.
      have hp : p = .done := by
        simp only [step, hw, Waiter.poll, hf, Reply.progress.injEq] at h
        exact h.symm
      simp [hp, hvalue]
    · rw [reply_poll hfit hin hf ha] at h
      cases hv : c.cell.value with
      | true =>
        rw [hv] at h
        cases h
        simp
      | false =>
        rw [hv] at h
        cases h
        simp

end Channel

/-! ### What is heard -/

/-- What is heard on a channel after some requests. -/
structure Hears (requests : List Request) : Prop where
  /-- Every listener is triggered just when the trigger was fired before, dropped since or not. -/
  listeners : ∀ i, HasListener requests i →
    ((Channel.after {} requests).step (.check i)).1 = .truth (decide (Fired requests))
  /-- A poll of a wait that has not ended, and was not given up, is ready just when the trigger was
  fired before, and pending otherwise. -/
  waiters : ∀ i, HasWaiter requests i → ¬ GivenUp requests i → ¬ Answered requests i .ready →
    ((Channel.after {} requests).step (.poll i)).1
      = .progress (if Fired requests then .ready else .pending)
  /-- If the trigger was dropped and not fired before that, every listener stays untriggered and
  every wait pending, whatever is asked. -/
  silence : Dropped requests → ¬ Fired requests → ∀ later,
    (∀ i b, (.check i, .truth b) ∈ (Channel.after {} requests).history later → b = false)
      ∧ ∀ i p, (.poll i, .progress p) ∈ (Channel.after {} requests).history later → p = .pending

/-- **A firing is heard by everyone, and nothing else is heard by anyone**, after any requests:
whenever a listener was cloned or a wait begun, whether the wait was polled before or not, and
whether the trigger is still there or not. -/
theorem hears_after (requests : List Request) : Hears requests where
  listeners := by
    intro i hi
    obtain ⟨l, hl⟩ := Channel.exists_listener hi
    simp only [Channel.step, hl, Listener.isTriggered, Channel.value_after]
  waiters := fun _ hi hgiven hready => Channel.reply_of_open hi hgiven hready
  silence := by
    intro hdropped hfired later
    -- Whatever is asked, it is asked in a channel whose trigger was not fired.
    have hquiet : ∀ before, (Channel.after {} (requests ++ before)).cell.value = false := by
      intro before
      rw [Channel.value_after, decide_eq_false_iff_not, fired_append_of_dropped hdropped]
      exact hfired
    constructor
    · intro i b hin
      obtain ⟨before, after, -, hreply⟩ := Channel.mem_history_iff.mp hin
      have hvalue := hquiet before
      rw [Channel.after_append] at hvalue
      cases hl : (((Channel.after {} requests).after before).listeners)[i]? with
      | none => simp [Channel.step, hl] at hreply
      | some l =>
        simp only [Channel.step, hl, Listener.isTriggered, hvalue, Reply.truth.injEq] at hreply
        exact hreply.symm
    · intro i p hin
      obtain ⟨before, after, -, hreply⟩ := Channel.mem_history_iff.mp hin
      have hvalue := hquiet before
      rw [Channel.after_append] at hvalue
      have hfit : ((Channel.after {} requests).after before).AllFit :=
        (Channel.allFit_new.after requests).after before
      by_contra hp
      rw [(Channel.value_of_reply_poll hfit hreply).2 hp] at hvalue
      cases hvalue

end IbanWatch.Shutdown
