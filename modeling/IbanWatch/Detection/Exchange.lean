import IbanWatch.Failure
import IbanWatch.Shutdown
import IbanWatch.Text.Utf8

/-!
# What a watch exchanges with its surroundings

A watch polls a source of messages and hands its alerts to an emitter.  Both belong to somebody
else: each may fail, unwind the caller, take its time, and fire or drop the shutdown trigger while
it works.  Here a source is the row of its replies, and so is an emitter.

## Main definitions

* `Message`, `Outcome` — a message of the stream, and what one poll brings.
* `PollReply` — how the source behaves during one poll.
* `EmitterReply`, `Emitter` — how the emitter behaves during one call, and in all calls.

## References

The reference's traits `EventSource` and `AlertEmitter`, its `InboundMessage` and its `PollOutcome`;
its specification, 4.3 and 4.4.
-/

namespace IbanWatch

open Text Shutdown

/-! ### The source -/

/-- A message of the stream, the reference's `InboundMessage`. -/
structure Message where
  /-- The payload, which a deletion marker does not have. -/
  payload : Option Bytes := none
  /-- The part of the stream it comes from. -/
  partition : Int := 0
  /-- Its place there. -/
  offset : Int := 0
  deriving DecidableEq, Repr

/-- What a poll brings, the reference's `PollOutcome`. -/
inductive Outcome where
  /-- Nothing came in time. -/
  | idle
  /-- A partition has no more messages for now. -/
  | partitionEnd
  /-- The stream failed. -/
  | failure (f : Failure)
  /-- A message came. -/
  | message (m : Message)
  deriving DecidableEq, Repr

/-- How a poll ends, if it is left alone. -/
inductive PollEnd where
  /-- With an outcome. -/
  | brings (o : Outcome)
  /-- By unwinding the caller. -/
  | unwinds
  /-- Never: the source asks for the end and waits for it. -/
  | waits
  /-- The source has no more to give: it asks for the end and brings nothing. -/
  | exhausted
  deriving DecidableEq, Repr

/-- How the source behaves during one poll.  A poll that is suspended more than once, or before it
touches the trigger, is seen no differently: it is given up only when it is suspended after the
trigger was fired. -/
structure PollReply where
  /-- It fires the shutdown trigger. -/
  fires : Bool := false
  /-- It drops the shutdown trigger, after firing it if it does both. -/
  drops : Bool := false
  /-- It then suspends once, so that the caller may look around. -/
  suspends : Bool := false
  /-- How the poll ends after that. -/
  ending : PollEnd
  deriving DecidableEq, Repr

/-- The signal after one who holds the trigger fired it, dropped it, or both. -/
def moveTrigger (fires drops : Bool) (s : Signal) : Signal :=
  let s := if fires then s.fire else s
  if drops then s.drop else s

/-- What the caller sees of a poll. -/
inductive Polled where
  /-- The poll came to its end with an outcome. -/
  | completed (o : Outcome)
  /-- The poll was given up, since the end was asked for while it was suspended. -/
  | abandoned
  /-- The poll unwound the caller. -/
  | unwound
  deriving DecidableEq, Repr

/-- Polls, and looks at the signal first whenever the poll is suspended, as the reference's `run`
does by a biased `select!`.  A source that wants to ask for the end, and finds that the trigger is
gone and was never fired, unwinds. -/
def PollReply.poll (r : PollReply) (s : Signal) : Polled × Signal :=
  let s := moveTrigger r.fires r.drops s
  if r.suspends && s.fired then (.abandoned, s)
  else match r.ending with
    | .brings o => (.completed o, s)
    | .unwinds => (.unwound, s)
    | .waits => if s.fire.fired then (.abandoned, s.fire) else (.unwound, s)
    | .exhausted => if s.fire.fired then (.completed .idle, s.fire) else (.unwound, s)

/-! ### The emitter -/

/-- How a call of the emitter ends. -/
inductive CallEnd where
  /-- The call did what it should. -/
  | succeeds
  /-- The call failed. -/
  | fails (f : Failure)
  /-- The call unwinds the caller. -/
  | unwinds
  deriving DecidableEq, Repr

/-- How the emitter behaves during one call.  A call is never given up, so it is all the same at
which moment of it the trigger is touched, and whether it is suspended then. -/
structure EmitterReply where
  /-- It fires the shutdown trigger. -/
  fires : Bool := false
  /-- It drops the shutdown trigger, after firing it if it does both. -/
  drops : Bool := false
  /-- How many alerts it learns to have been refused, in a call that does not unwind. -/
  rejected : UInt64 := 0
  /-- How the call ends. -/
  ending : CallEnd := .succeeds
  deriving DecidableEq, Repr

/-- The emitter, given by its behaviour in the calls to come; the reference's `AlertEmitter`.  A
call for which no behaviour is left succeeds and does nothing else. -/
structure Emitter where
  /-- The behaviour in the coming calls that hand over an alert. -/
  sends : List EmitterReply := []
  /-- The behaviour in the coming calls that wait for acknowledgement. -/
  flushes : List EmitterReply := []
  /-- How many alerts were taken and refused later. -/
  rejected : UInt64 := 0
  deriving DecidableEq, Repr

namespace Emitter

/-- The emitter after it learned what the reply tells of refused alerts. -/
def learn (e : Emitter) (r : EmitterReply) : Emitter :=
  match r.ending with
  | .unwinds => e
  | _ => { e with rejected := e.rejected + r.rejected }

/-- The behaviour in the next call that hands over an alert, and the emitter after it. -/
def takeSend (e : Emitter) : EmitterReply × Emitter :=
  let r := e.sends.headD {}
  (r, { e with sends := e.sends.tail }.learn r)

/-- The behaviour in the next call that waits for acknowledgement, and the emitter after it. -/
def takeFlush (e : Emitter) : EmitterReply × Emitter :=
  let r := e.flushes.headD {}
  (r, { e with flushes := e.flushes.tail }.learn r)

end Emitter

end IbanWatch
