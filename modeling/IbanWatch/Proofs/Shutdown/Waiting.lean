import IbanWatch.Shutdown
import Mathlib.Data.List.Induction

/-!
# Where a wait comes to rest

A wait goes its own way through a loop, and what it finds depends on the version that its listener
has seen and on the moments at which it is asked.  Here all of it is told by the cell alone: a wait
that has not ended comes to rest where the cell says, whatever its listener has seen and whether it
left word before.  What carries this is how a waiter at each stage stands to the cell: one that was
woken by a firing has not seen the version that the firing wrote.

## Main definitions

* `Cell.resting` — where a wait comes to rest.
* `Waiter.Fits` — how a waiter stands to the cell.
* `Signal.heed`, `Waiter.heed` — what a request to the channel does to the signal and to a waiter.

## Main results

* `wait_eq`, `await_eq` — the loop and the wait for news end where the cell says.
* `poll_eq_rest` — a poll of a wait that has not ended.
* `getElem?_waiters_step`, `waiter_step_cases` — a step is what each waiter heeds, and a new one.
* `AllFit.after` — **every waiter fits, after any requests.**
* `signal_after` — the signal, which is what a run polls, is moved by the requests alone.
-/

namespace IbanWatch.Shutdown

/-- The signal after a request to a channel that shows it. -/
def Signal.heed (s : Signal) : Request → Signal
  | .fire => s.fire
  | .drop => s.drop
  | .check _ | .clone _ | .wait _ | .poll _ | .giveUp _ | .woken _ => s

/-! ### The loop of a wait -/

/-- Where a wait comes to rest. -/
def Cell.resting (c : Cell) : Stage :=
  if c.value then .finished else if c.closed then .stranded else .listed

theorem Cell.resting_eq_finished_iff {c : Cell} : c.resting = .finished ↔ c.value = true := by
  rw [resting]
  cases hv : c.value with
  | true => simp
  | false => cases hc : c.closed <;> simp

theorem Cell.resting_ne_abandoned (c : Cell) : c.resting ≠ .abandoned := by
  rw [resting]
  cases hv : c.value with
  | true => simp
  | false => cases hc : c.closed <;> simp

namespace Listener

theorem await_of_seen {l : Listener} {c : Cell} (hs : l.seen = c.version) :
    l.await c = (if c.closed then .stranded else .listed, l) := by
  have hnews : l.news c = if c.closed then (.closed, l) else (.nothing, l) := by
    rw [news, if_neg (by simpa using hs)]
  rw [await]
  cases hc : c.closed with
  | true =>
    simp only [hc, if_true] at hnews
    split <;> simp_all
  | false =>
    simp only [hc, Bool.false_eq_true, if_false] at hnews
    split <;> simp_all

/-- **The loop of a wait ends where the cell says.** -/
theorem wait_eq (l : Listener) (c : Cell) : l.wait c = (c.resting, ⟨c.version⟩) := by
  rw [wait]
  split
  · next heq =>
    obtain ⟨hv, rfl⟩ := Prod.mk.inj heq
    simp [Cell.resting, hv]
  · next heq =>
    -- The look has left nothing new but the end of the trigger, so the loop is not run again.
    obtain ⟨hv, rfl⟩ := Prod.mk.inj heq
    rw [await_of_seen rfl]
    simp [Cell.resting, hv]

/-- The wait for news ends there too, unless the end was asked for and the listener has seen that
already, which would make it wait for ever. -/
theorem await_eq {l : Listener} {c : Cell} (h : c.value = true → l.seen ≠ c.version) :
    l.await c = (c.resting, ⟨c.version⟩) := by
  by_cases hs : l.seen = c.version
  · have hv : c.value = false := by
      cases hv : c.value with
      | true => exact absurd hs (h hv)
      | false => rfl
    obtain ⟨seen⟩ := l
    cases hs
    rw [await_of_seen rfl]
    simp [Cell.resting, hv]
  · have hnews : l.news c = (.written, ⟨c.version⟩) := by rw [news, if_pos hs]
    have hwait := wait_eq ⟨c.version⟩ c
    rw [await]
    split <;> simp_all

end Listener

/-! ### Waiters and the cell -/

namespace Waiter

/-- How a waiter stands to the cell, at each stage. -/
def Fits (w : Waiter) (c : Cell) : Prop :=
  match w.stage with
  | .fresh | .abandoned => True
  | .listed => c.value = false ∧ c.closed = false ∧ w.listener = ⟨c.version⟩
  | .called => (c.value = true ∧ w.listener.seen < c.version)
      ∨ (c.value = false ∧ c.closed = true)
  | .stranded => c.value = false ∧ c.closed = true ∧ w.listener = ⟨c.version⟩
  | .finished => c.value = true

variable {w : Waiter} {c : Cell}

/-- A firing keeps it, and so whoever it wakes has not seen what it wrote. -/
theorem Fits.wake_write (h : w.Fits c) (hc : c.closed = false) : w.wake.Fits c.write := by
  obtain ⟨l, stage, woken⟩ := w
  cases stage with
  | fresh => trivial
  | listed =>
    obtain ⟨-, -, hl⟩ := h
    have hseen : l.seen < c.version + 1 := by
      cases hl
      exact Nat.lt_succ_self _
    exact .inl ⟨rfl, hseen⟩
  | called =>
    rcases h with ⟨-, hseen⟩ | ⟨-, hclosed⟩
    · exact .inl ⟨rfl, Nat.lt_succ_of_lt hseen⟩
    · -- A trigger that can be fired is not gone.
      rw [hc] at hclosed
      cases hclosed
  | stranded =>
    obtain ⟨-, hclosed, -⟩ := h
    rw [hc] at hclosed
    cases hclosed
  | finished => rfl
  | abandoned => trivial

/-- The drop keeps it. -/
theorem Fits.wake_close (h : w.Fits c) : w.wake.Fits c.close := by
  obtain ⟨l, stage, woken⟩ := w
  cases stage with
  | fresh => trivial
  | listed => exact .inr ⟨h.1, rfl⟩
  | called =>
    rcases h with h | ⟨hv, -⟩
    · exact .inl h
    · exact .inr ⟨hv, rfl⟩
  | stranded => exact ⟨h.1, rfl, h.2.2⟩
  | finished => exact h
  | abandoned => trivial

/-- **A poll of a wait that has not ended** lets it rest where the cell says. -/
theorem poll_eq_rest (h : w.Fits c) (hf : w.stage ≠ .finished) (ha : w.stage ≠ .abandoned) :
    w.poll c = w.rest c.resting ⟨c.version⟩ := by
  obtain ⟨l, stage, woken⟩ := w
  cases stage with
  | fresh => rw [poll, Listener.wait_eq]
  | called =>
    have hnew : c.value = true → l.seen ≠ c.version := by
      intro hv
      rcases h with ⟨-, hseen⟩ | ⟨hv', -⟩
      · exact Nat.ne_of_lt hseen
      · rw [hv] at hv'
        cases hv'
    rw [poll, Listener.await_eq hnew]
  | listed =>
    -- Nothing has happened since it left word, so it rests where it rested.
    obtain ⟨hv, hc, rfl⟩ := h
    simp [poll, rest, Cell.resting, hv, hc]
  | stranded =>
    obtain ⟨hv, hc, rfl⟩ := h
    simp [poll, rest, Cell.resting, hv, hc]
  | finished => exact absurd rfl hf
  | abandoned => exact absurd rfl ha

theorem fits_rest (w : Waiter) (c : Cell) : (w.rest c.resting ⟨c.version⟩).2.Fits c := by
  cases hv : c.value with
  | true => simp [rest, Cell.resting, Fits, hv]
  | false =>
    cases hc : c.closed with
    | true => simp [rest, Cell.resting, Fits, hv, hc]
    | false => simp [rest, Cell.resting, Fits, hv, hc]

theorem Fits.poll (h : w.Fits c) : (w.poll c).2.Fits c := by
  by_cases hf : w.stage = .finished
  · simpa [Waiter.poll, hf] using h
  · by_cases ha : w.stage = .abandoned
    · simpa [Waiter.poll, ha] using h
    · rw [poll_eq_rest h hf ha]
      exact fits_rest w c

/-- A poll ends a wait only by answering that it is ready, and never gives one up. -/
theorem stage_poll (h : w.Fits c) :
    ((w.poll c).2.stage = .finished → w.stage = .finished
        ∨ (w.stage ≠ .abandoned ∧ (w.poll c).1 = .ready))
      ∧ ((w.poll c).2.stage = .abandoned → w.stage = .abandoned) := by
  by_cases hf : w.stage = .finished
  · simp [Waiter.poll, hf]
  · by_cases ha : w.stage = .abandoned
    · simp [Waiter.poll, ha]
    -- A poll of any other stage comes to rest, and that is never given up.
    · rw [poll_eq_rest h hf ha]
      constructor
      · intro hstage
        have hresting : c.resting = .finished := hstage
        exact .inr ⟨ha, by rw [rest, if_pos hresting]⟩
      · intro hstage
        exact absurd hstage c.resting_ne_abandoned

end Waiter

/-! ### What a request does -/

/-- What a request to the channel does to the waiter with this number. -/
def Waiter.heed (w : Waiter) (c : Cell) (i : Nat) : Request → Waiter
  | .fire | .drop => if c.closed then w else w.wake
  | .poll j => if j = i then (w.poll c).2 else w
  | .giveUp j => if j = i then w.giveUp else w
  | .check _ | .clone _ | .wait _ | .woken _ => w

namespace Channel

variable {c : Channel} {i : Nat} {w : Waiter}

theorem waiting?_eq_some_iff :
    c.waiting? i = some w ↔ c.waiters[i]? = some w ∧ w.stage ≠ .abandoned := by
  simp [waiting?, Option.filter_eq_some_iff]

theorem waiting?_eq_none_iff (h : c.waiters[i]? = some w) :
    c.waiting? i = none ↔ w.stage = .abandoned := by
  simp [waiting?, h, Option.filter_eq_none_iff]

/-- The cell after a request. -/
theorem cell_step (c : Channel) (r : Request) : (c.step r).2.cell =
    if c.cell.closed then c.cell
    else match r with
      | .fire => c.cell.write
      | .drop => c.cell.close
      | _ => c.cell := by
  cases r with
  | fire => cases hc : c.cell.closed <;> simp [step, fire, hc]
  | drop => cases hc : c.cell.closed <;> simp [step, drop, hc]
  | check j => cases hl : c.listeners[j]? <;> simp [step, hl]
  | clone j => cases hl : c.listeners[j]? <;> simp [step, hl]
  | wait j => cases hl : c.listeners[j]? <;> simp [step, hl]
  | poll j => cases hw : c.waiting? j <;> simp [step, hw]
  | giveUp j => cases hw : c.waiting? j <;> simp [step, hw]
  | woken j => cases hw : c.waiters[j]? <;> simp [step, hw]

/-- **What a request does to a waiter.** -/
theorem getElem?_waiters_step (h : c.waiters[i]? = some w) (r : Request) :
    (c.step r).2.waiters[i]? = some (w.heed c.cell i r) := by
  have hi : i < c.waiters.length := (List.getElem?_eq_some_iff.mp h).1
  cases r with
  | fire => cases hc : c.cell.closed <;> simp [step, fire, Waiter.heed, hc, h]
  | drop => cases hc : c.cell.closed <;> simp [step, drop, Waiter.heed, hc, h]
  | check j => cases hl : c.listeners[j]? <;> simp [step, Waiter.heed, hl, h]
  | clone j => cases hl : c.listeners[j]? <;> simp [step, Waiter.heed, hl, h]
  | wait j =>
    cases hl : c.listeners[j]? with
    | none => simp [step, Waiter.heed, hl, h]
    | some l => simp [step, Waiter.heed, hl, List.getElem?_append_left hi, h]
  | woken j => cases hw : c.waiters[j]? <;> simp [step, Waiter.heed, hw, h]
  | poll j =>
    -- A poll moves no waiter but its own, and not even that one if it was given up.
    by_cases hj : j = i
    · subst hj
      cases hw : c.waiting? j with
      | none =>
        have ha := (waiting?_eq_none_iff h).mp hw
        simp [step, Waiter.heed, Waiter.poll, hw, h, ha]
      | some v =>
        have hv := (waiting?_eq_some_iff.mp hw).1
        rw [h] at hv
        cases hv
        simp [step, Waiter.heed, hw, hi]
    · cases hw : c.waiting? j <;> simp [step, Waiter.heed, hw, hj, h, List.getElem?_set_ne]
  | giveUp j =>
    by_cases hj : j = i
    · subst hj
      cases hw : c.waiting? j with
      | none =>
        have ha := (waiting?_eq_none_iff h).mp hw
        obtain ⟨l, stage, woken⟩ := w
        cases ha
        simp [step, Waiter.heed, Waiter.giveUp, hw, h]
      | some v =>
        have hv := (waiting?_eq_some_iff.mp hw).1
        rw [h] at hv
        cases hv
        simp [step, Waiter.heed, hw, hi]
    · cases hw : c.waiting? j <;> simp [step, Waiter.heed, hw, hj, h, List.getElem?_set_ne]

/-- A waiter that is there after a request was there before and heeds it, or the request made it. -/
theorem waiter_step_cases {r : Request} {v : Waiter} (h : (c.step r).2.waiters[i]? = some v) :
    (∃ w, c.waiters[i]? = some w ∧ v = w.heed c.cell i r)
      ∨ (i = c.waiters.length ∧ ∃ j l, r = .wait j ∧ v = { listener := l }) := by
  cases hw : c.waiters[i]? with
  | some w =>
    rw [getElem?_waiters_step hw r] at h
    exact .inl ⟨w, rfl, (Option.some.inj h).symm⟩
  | none =>
    -- Only a request to wait makes a waiter where there was none.
    have hlength : c.waiters.length ≤ i := List.getElem?_eq_none_iff.mp hw
    cases r with
    | fire => cases hc : c.cell.closed <;> simp [step, fire, hc, hw] at h
    | drop => cases hc : c.cell.closed <;> simp [step, drop, hc, hw] at h
    | check j => cases hl : c.listeners[j]? <;> simp [step, hl, hw] at h
    | clone j => cases hl : c.listeners[j]? <;> simp [step, hl, hw] at h
    | woken j => cases hl : c.waiters[j]? <;> simp [step, hl, hw] at h
    | poll j =>
      cases hl : c.waiting? j with
      | none => simp [step, hl, hw] at h
      | some w =>
        simp only [step, hl, List.getElem?_set] at h
        split at h
        · simp at h
          omega
        · simp [hw] at h
    | giveUp j =>
      cases hl : c.waiting? j with
      | none => simp [step, hl, hw] at h
      | some w =>
        simp only [step, hl, List.getElem?_set] at h
        split at h
        · simp at h
          omega
        · simp [hw] at h
    | wait j =>
      cases hl : c.listeners[j]? with
      | none => simp [step, hl, hw] at h
      | some l =>
        simp only [step, hl, List.getElem?_append_right hlength] at h
        obtain ⟨hi, hv⟩ := List.getElem?_eq_some_iff.mp h
        have hzero : i - c.waiters.length = 0 := by simpa using hi
        refine .inr ⟨by omega, j, l, rfl, ?_⟩
        simpa [hzero] using hv.symm

/-! ### Any requests -/

/-- Every waiter fits. -/
def AllFit (c : Channel) : Prop := ∀ (i : Nat) (w : Waiter), c.waiters[i]? = some w → w.Fits c.cell

theorem AllFit.step (h : c.AllFit) (r : Request) : (c.step r).2.AllFit := by
  intro i v hv
  rw [cell_step]
  rcases waiter_step_cases hv with ⟨w, hw, rfl⟩ | ⟨-, j, l, -, rfl⟩
  · have hfits := h i w hw
    -- Only firing, dropping and polling move a waiter or the cell; each keeps the fit.
    cases r with
    | fire =>
      cases hc : c.cell.closed with
      | true => simpa [Waiter.heed, hc] using hfits
      | false => simpa [Waiter.heed, hc] using hfits.wake_write hc
    | drop =>
      cases hc : c.cell.closed with
      | true => simpa [Waiter.heed, hc] using hfits
      | false => simpa [Waiter.heed, hc] using hfits.wake_close
    | poll j =>
      by_cases hj : j = i
      · simpa [Waiter.heed, hj] using hfits.poll
      · simpa [Waiter.heed, hj] using hfits
    | giveUp j =>
      by_cases hj : j = i
      · simp [Waiter.heed, Waiter.giveUp, Waiter.Fits, hj]
      · simpa [Waiter.heed, hj] using hfits
    | check j => simpa [Waiter.heed] using hfits
    | clone j => simpa [Waiter.heed] using hfits
    | wait j => simpa [Waiter.heed] using hfits
    | woken j => simpa [Waiter.heed] using hfits
  · trivial

/-! ### Rows of requests -/

@[simp] theorem after_nil (c : Channel) : c.after [] = c := rfl

@[simp] theorem after_cons (c : Channel) (r : Request) (rest : List Request) :
    c.after (r :: rest) = (c.step r).2.after rest := rfl

@[simp] theorem after_append (c : Channel) (rs ss : List Request) :
    c.after (rs ++ ss) = (c.after rs).after ss := List.foldl_append

/-- **Every waiter fits, after any requests.** -/
theorem AllFit.after (h : c.AllFit) (requests : List Request) : (c.after requests).AllFit := by
  induction requests generalizing c with
  | nil => exact h
  | cons r rest ih => exact ih (h.step r)

theorem allFit_new : AllFit {} := by
  intro i w hw
  simp at hw

/-- A step does to the signal what its request asks for.  Once the trigger is gone it is refused
there, and comes to nothing here. -/
theorem signal_step (c : Channel) (r : Request) :
    (c.step r).2.cell.signal = c.cell.signal.heed r := by
  rw [cell_step]
  cases hc : c.cell.closed with
  | false =>
    cases r with
    | fire => exact Cell.signal_write hc
    | drop => exact c.cell.signal_close
    | _ => rfl
  | true => cases r <;> simp [Cell.signal, Signal.heed, Signal.fire, Signal.drop, hc]

/-- **The signal is all that is left of a channel** when its listeners are forgotten: requests move
it as they come, one after another. -/
theorem signal_after (c : Channel) (requests : List Request) :
    (c.after requests).cell.signal = requests.foldl Signal.heed c.cell.signal := by
  induction requests generalizing c with
  | nil => rfl
  | cons r rest ih => rw [after_cons, ih, signal_step, List.foldl_cons]

end Channel

end IbanWatch.Shutdown
