/-!
# Asking for the end

One party asks for the end and any number of others wait for it.  The trigger can be fired as
often as one likes and stays fired; it can also be dropped, and a trigger that was dropped before
it was ever fired will never ask for anything.

The trigger and its listeners share a cell with a value, a version and a mark for the end of the
trigger.  Every listener remembers the version that it has seen.  A wait looks at the value, and if
the end was not asked for it waits for news: for a version that it has not seen, or else for the end
of the trigger.  A wait that finds no news leaves word to be woken, and the next firing, or the
drop, wakes everyone who did.

## Main definitions

* `Signal` — what has become of the trigger, with `Signal.fire` and `Signal.drop`.
* `Cell`, `Listener` — what the trigger and its listeners share, and what a listener has seen.
* `Listener.wait`, `Listener.await` — the loop of a wait, and its wait for news.
* `Waiter`, `Waiter.poll` — one wait for the end, and asking it how far it is.
* `Channel` — a trigger with its listeners and waiters.
* `Request`, `Reply`, `Channel.step`, `Channel.run` — what can be asked of a channel, and its
  answers.

## References

The reference's `shutdown::channel`, with its `ShutdownTrigger` and `Shutdown`; its specification, 9
and 10.5.  The cell is that of its `tokio::sync::watch`: `look` is `borrow_and_update`, and `news`
with the word that is left is `changed`.
-/

namespace IbanWatch.Shutdown

/-! ### The trigger -/

/-- What has become of the trigger, the reference's `ShutdownTrigger`. -/
structure Signal where
  /-- It was fired. -/
  fired : Bool := false
  /-- It is gone, and nobody can fire it any more. -/
  dropped : Bool := false
  deriving DecidableEq, Repr

/-- Fires the trigger, if it is still there; the reference's `trigger`. -/
def Signal.fire (s : Signal) : Signal := { s with fired := s.fired || !s.dropped }

/-- Drops the trigger. -/
def Signal.drop (s : Signal) : Signal := { s with dropped := true }

@[simp] theorem Signal.fired_drop (s : Signal) : s.drop.fired = s.fired := rfl

@[simp] theorem Signal.dropped_fire (s : Signal) : s.fire.dropped = s.dropped := rfl

@[simp] theorem Signal.fired_fire (s : Signal) : s.fire.fired = (s.fired || !s.dropped) := rfl

/-! ### The cell -/

/-- What the trigger and its listeners share. -/
structure Cell where
  /-- The end was asked for. -/
  value : Bool := false
  /-- How often the value was written. -/
  version : Nat := 0
  /-- The trigger is gone. -/
  closed : Bool := false
  deriving DecidableEq, Repr

namespace Cell

/-- Writes that the end is asked for, which makes a new version even of a value that was so. -/
def write (c : Cell) : Cell := { c with value := true, version := c.version + 1 }

/-- Marks that the trigger is gone. -/
def close (c : Cell) : Cell := { c with closed := true }

/-- What the cell tells of the trigger. -/
def signal (c : Cell) : Signal := ⟨c.value, c.closed⟩

theorem signal_write {c : Cell} (h : c.closed = false) : c.write.signal = c.signal.fire := by
  simp [signal, write, Signal.fire, h]

@[simp] theorem signal_close (c : Cell) : c.close.signal = c.signal.drop := rfl

end Cell

/-! ### Listeners -/

/-- One who listens, the reference's `Shutdown`. -/
structure Listener where
  /-- The version of the value that it has seen. -/
  seen : Nat := 0
  deriving DecidableEq, Repr

/-- What can be new to a listener. -/
inductive News where
  /-- There is a version that it has not seen. -/
  | written
  /-- The trigger is gone. -/
  | closed
  /-- Nothing is new. -/
  | nothing
  deriving DecidableEq, Repr

/-- How far a wait is. -/
inductive Stage where
  /-- Nobody asked yet. -/
  | fresh
  /-- It left word to be woken, and was not woken since. -/
  | listed
  /-- It left word and was woken. -/
  | called
  /-- It found the trigger gone unfired, and is past hope. -/
  | stranded
  /-- It has seen the end. -/
  | finished
  /-- It was given up. -/
  | abandoned
  deriving DecidableEq, Repr

namespace Listener

/-- Whether the end was asked for, the reference's `is_triggered`.  The listener does not count this
as having seen it. -/
def isTriggered (_ : Listener) (c : Cell) : Bool := c.value

/-- Looks at the value: whether the end was asked for, and the listener that has seen it. -/
def look (_ : Listener) (c : Cell) : Bool × Listener := (c.value, ⟨c.version⟩)

/-- What is new to the listener, and the listener that knows it.  A version that it has not seen
comes before the end of the trigger. -/
def news (l : Listener) (c : Cell) : News × Listener :=
  if l.seen ≠ c.version then (.written, ⟨c.version⟩)
  else if c.closed then (.closed, l)
  else (.nothing, l)

theorem seen_of_look {l l' : Listener} {c : Cell} {asked : Bool} (h : l.look c = (asked, l')) :
    l'.seen = c.version := by
  cases h
  rfl

theorem seen_of_news {l l' : Listener} {c : Cell} (h : l.news c = (.written, l')) :
    l.seen ≠ c.version := by
  intro hs
  rw [news, if_neg (by simpa using hs)] at h
  cases hc : c.closed <;> simp [hc] at h

mutual

/-- The loop of a wait, the reference's `triggered`, up to where it rests: it looks at the value,
and if the end was not asked for it waits for news. -/
def wait (l : Listener) (c : Cell) : Stage × Listener :=
  match _ : l.look c with
  | (true, l) => (.finished, l)
  | (false, l) => await l c
termination_by 1
decreasing_by simp [seen_of_look ‹_›]

/-- The wait for news, up to where it rests: after a new version the loop goes on, without the
trigger there is nothing to hope for, and without news one leaves word. -/
def await (l : Listener) (c : Cell) : Stage × Listener :=
  match _ : l.news c with
  | (.written, l) => wait l c
  | (.closed, l) => (.stranded, l)
  | (.nothing, l) => (.listed, l)
termination_by if l.seen = c.version then 0 else 2
decreasing_by simp [seen_of_news ‹_›]

end

end Listener

/-! ### Waiting -/

/-- One wait for the end, with a listener of its own. -/
structure Waiter where
  /-- The listener that waits. -/
  listener : Listener
  /-- How far the wait is. -/
  stage : Stage := .fresh
  /-- It was woken at some time. -/
  woken : Bool := false
  deriving DecidableEq, Repr

/-- What a waiter answers when it is asked. -/
inductive Progress where
  /-- The end was not asked for. -/
  | pending
  /-- The end was asked for. -/
  | ready
  /-- It has answered `ready` before. -/
  | done
  deriving DecidableEq, Repr

namespace Waiter

/-- Wakes the waiter if it left word. -/
def wake (w : Waiter) : Waiter :=
  match w.stage with
  | .listed => { w with stage := .called, woken := true }
  | .fresh | .called | .stranded | .finished | .abandoned => w

/-- The waiter where its wait came to rest, with its answer. -/
def rest (w : Waiter) (stage : Stage) (l : Listener) : Progress × Waiter :=
  (if stage = .finished then .ready else .pending, { w with listener := l, stage })

/-- Asks the waiter how far it is.  One that left word looks again only after it was woken. -/
def poll (w : Waiter) (c : Cell) : Progress × Waiter :=
  match w.stage with
  | .fresh => w.rest (w.listener.wait c).1 (w.listener.wait c).2
  | .called => w.rest (w.listener.await c).1 (w.listener.await c).2
  | .listed | .stranded | .abandoned => (.pending, w)
  | .finished => (.done, w)

/-- Gives up the wait. -/
def giveUp (w : Waiter) : Waiter := { w with stage := .abandoned }

end Waiter

/-! ### The channel -/

/-- A trigger with its listeners and waiters, numbered from zero in the order they were made. -/
structure Channel where
  /-- What the trigger and the listeners share. -/
  cell : Cell := {}
  /-- The listeners. -/
  listeners : List Listener := [{}]
  /-- The waiters. -/
  waiters : List Waiter := []
  deriving DecidableEq, Repr

/-- What can be asked of a channel. -/
inductive Request where
  /-- Fire the trigger. -/
  | fire
  /-- Drop the trigger. -/
  | drop
  /-- Ask a listener whether the trigger was fired. -/
  | check (listener : Nat)
  /-- Make another listener out of one. -/
  | clone (listener : Nat)
  /-- Let another listener, made out of one, begin to wait. -/
  | wait (listener : Nat)
  /-- Ask a waiter how far it is. -/
  | poll (waiter : Nat)
  /-- Give up a wait, after which its listener is one like the others. -/
  | giveUp (waiter : Nat)
  /-- Ask whether a waiter was ever woken. -/
  | woken (waiter : Nat)
  deriving DecidableEq, Repr

/-- What a channel answers. -/
inductive Reply where
  /-- It was done. -/
  | ok
  /-- There is no trigger any more. -/
  | gone
  /-- The number of what was made. -/
  | number (n : Nat)
  /-- Yes or no. -/
  | truth (b : Bool)
  /-- How far a waiter is. -/
  | progress (p : Progress)
  /-- There is no listener or waiter of this number. -/
  | unknown
  deriving DecidableEq, Repr

namespace Channel

/-- Fires the trigger and wakes all who left word. -/
def fire (c : Channel) : Channel :=
  { c with cell := c.cell.write, waiters := c.waiters.map Waiter.wake }

/-- Drops the trigger and wakes all who left word. -/
def drop (c : Channel) : Channel :=
  { c with cell := c.cell.close, waiters := c.waiters.map Waiter.wake }

/-- The waiter of this number, unless its wait was given up. -/
def waiting? (c : Channel) (i : Nat) : Option Waiter :=
  c.waiters[i]?.filter fun w => w.stage ≠ .abandoned

/-- Answers one request. -/
def step (c : Channel) : Request → Reply × Channel
  | .fire => if c.cell.closed then (.gone, c) else (.ok, c.fire)
  | .drop => if c.cell.closed then (.gone, c) else (.ok, c.drop)
  | .check i =>
    match c.listeners[i]? with
    | none => (.unknown, c)
    | some l => (.truth (l.isTriggered c.cell), c)
  | .clone i =>
    match c.listeners[i]? with
    | none => (.unknown, c)
    | some l => (.number c.listeners.length, { c with listeners := c.listeners ++ [l] })
  | .wait i =>
    match c.listeners[i]? with
    | none => (.unknown, c)
    | some l => (.number c.waiters.length, { c with waiters := c.waiters ++ [{ listener := l }] })
  | .poll i =>
    match c.waiting? i with
    | none => (.unknown, c)
    | some w =>
      (.progress (w.poll c.cell).1, { c with waiters := c.waiters.set i (w.poll c.cell).2 })
  | .giveUp i =>
    match c.waiting? i with
    | none => (.unknown, c)
    | some w => (.number c.listeners.length,
        { c with listeners := c.listeners ++ [w.listener], waiters := c.waiters.set i w.giveUp })
  | .woken i =>
    match c.waiters[i]? with
    | none => (.unknown, c)
    | some w => (.truth w.woken, c)

/-- The channel after a row of requests. -/
def after (c : Channel) (requests : List Request) : Channel :=
  requests.foldl (fun c r => (c.step r).2) c

/-- The answers to a row of requests. -/
def run (c : Channel) : List Request → List Reply
  | [] => []
  | r :: rest => (c.step r).1 :: run (c.step r).2 rest

end Channel

example : Channel.run {} [.wait 0, .poll 0, .fire, .woken 0, .poll 0, .poll 0]
    = [.number 0, .progress .pending, .ok, .truth true, .progress .ready, .progress .done] := by
  decide +kernel

example : Channel.run {} [.drop, .wait 0, .poll 0, .woken 0, .fire, .check 0]
    = [.ok, .number 0, .progress .pending, .truth false, .gone, .truth false] := by
  decide +kernel

end IbanWatch.Shutdown
