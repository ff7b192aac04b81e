import IbanWatch.Detection.Watch

/-!
# The run of a watch

A watch polls until the end is asked for.  Only a poll that is waiting can be given up; whatever a
poll has brought is handled to its end first.  The source is released when the run ends, and also
when the run is unwound or never begun.

## Main definitions

* `Watch.turn` — one poll and what follows from it.
* `Watch.run` — all turns, the end and the release of the source.
* `Watch.session` — messages handled one by one from outside, then a run or none.

## References

The reference's `DetectionLoop::run`; its specification, 4.4, 5 and 10.5.
-/

namespace IbanWatch

open Shutdown

/-- What comes after a turn of a watch. -/
inductive Next where
  /-- Another turn. -/
  | again
  /-- The end of the run, since it was asked for. -/
  | leave
  /-- The run is unwound. -/
  | unwound
  deriving DecidableEq, Repr

/-- What became of one turn. -/
structure Turn where
  /-- What comes after it. -/
  next : Next
  /-- The watch after it. -/
  watch : Watch
  /-- What happened. -/
  trace : Trace

/-- Goes on after a turn, if there is more to come. -/
def Turn.andThen (first : Turn) (next : Watch → Turn) : Turn :=
  match first.next with
  | .again =>
    let rest := next first.watch
    { rest with trace := first.trace ++ rest.trace }
  | .leave | .unwound => first

namespace Watch

/-! ### One turn -/

/-- The watch after a poll. -/
def polled (w : Watch) (reply : PollReply) : Watch :=
  { w with signal := (reply.poll w.signal).2 }

/-- What happens in a poll. -/
def pollTrace (w : Watch) (reply : PollReply) : Trace :=
  [.call (.poll w.settings.pollTimeout), .polled reply (reply.poll w.signal).1]

/-- One poll, whose outcome is handled if the poll comes to its end. -/
def pollTurn (w : Watch) (reply : PollReply) : Turn :=
  let trace := w.pollTrace reply
  match (reply.poll w.signal).1 with
  | .abandoned => ⟨.leave, { w.polled reply with phase := .shuttingDown }, trace⟩
  | .unwound => ⟨.unwound, w.polled reply, trace⟩
  | .completed o =>
    let report := (w.polled reply).handle o
    match report.ending with
    | .returned _ => ⟨.again, report.watch, trace ++ report.trace⟩
    | .unwound => ⟨.unwound, report.watch, trace ++ report.trace⟩

/-- One turn of the loop in the reference's `run`: the end of the run if it was asked for, and else
one poll.  A watch that is not running polls no more. -/
def turn (w : Watch) (reply : PollReply) : Turn :=
  match w.phase with
  | .shuttingDown | .stopped => ⟨.leave, w, []⟩
  | .running =>
    if w.signal.fired then ⟨.leave, { w with phase := .shuttingDown }, []⟩ else w.pollTurn reply

/-! ### The run -/

/-- The turns of a watch that is running.  After the last reply of the script the source is
exhausted, and after that the end was asked for. -/
def turns (w : Watch) : List PollReply → Turn
  | [] => (w.turn { ending := .exhausted }).andThen (·.turn { ending := .exhausted })
  | reply :: script => (w.turn reply).andThen (·.turns script)

/-- Ends the run: the source is released, the counts are read, and they are told. -/
def finish (w : Watch) : Report Stats :=
  let (stopped, release) := w.stop
  ⟨.returned stopped.stats, stopped,
    .log .stopping :: (release ++
      [.counted stopped.emitter.rejected, .log (.stopped stopped.stats)])⟩

/-- Runs a watch on a script of the source's replies, the reference's `DetectionLoop::run`: its
counts, unless it is unwound, and what it did.  In any case it lets go of the watch at last. -/
def run (w : Watch) (script : List PollReply) : Report Stats :=
  let begun : Occurrence := .log (.running w.settings.alertTopic)
  let all := w.turns script
  let ended : Report Stats :=
    match all.next with
    | .unwound => ⟨.unwound, all.watch, []⟩
    | .again | .leave => all.watch.finish
  let (dropped, release) := ended.watch.drop
  ⟨ended.ending, dropped, begun :: (all.trace ++ (ended.trace ++ release))⟩

/-! ### Sessions -/

/-- What is done to a watch from outside, before it runs. -/
inductive Request where
  /-- The shutdown trigger is fired. -/
  | trigger
  /-- A message is handed in. -/
  | message (m : Message)
  deriving DecidableEq, Repr

/-- What became of a request. -/
structure Answer where
  /-- How the message ended, if there was one. -/
  ending : Option (Ending (Except Failure Verdict))
  /-- The watch after it. -/
  watch : Watch
  /-- What happened. -/
  trace : Trace

/-- Answers one request. -/
def answer (w : Watch) : Request → Answer
  | .trigger => ⟨none, { w with signal := w.signal.fire }, []⟩
  | .message m =>
    let report := w.process m
    ⟨some report.ending, report.watch, report.trace⟩

/-- Answers requests one after another. -/
def answers (w : Watch) : List Request → List Answer × Watch
  | [] => ([], w)
  | r :: rest =>
    let first := w.answer r
    let (later, w) := first.watch.answers rest
    (first :: later, w)

/-- What became of a session. -/
structure Session where
  /-- What became of the requests. -/
  answers : List Answer
  /-- How the run ended, if there was one. -/
  ending : Option (Ending Stats)
  /-- What happened after the requests. -/
  trace : Trace

/-- A session: requests, then a run on a script or, without one, the watch is only let go. -/
def session (w : Watch) (requests : List Request) (script : Option (List PollReply)) : Session :=
  let (answers, w) := w.answers requests
  match script with
  | none => ⟨answers, none, w.drop.2⟩
  | some script =>
    let report := w.run script
    ⟨answers, some report.ending, report.trace⟩

end Watch

end IbanWatch
