import IbanWatch.AuditEvent
import IbanWatch.Detection.Exchange
import IbanWatch.Detection.Stats
import IbanWatch.Iban.Check

/-!
# What a watch does, step by step

A watch makes calls to its source and its emitter, is answered, and logs lines.  All of it is kept
in one row, in the order in which it happens.  What comes from a message is quoted in a log line, so
that no message can break a line or end a quotation.

## Main definitions

* `Call` — a call of the source or the emitter.
* `LogLine`, with `LogLine.level` and `LogLine.text` — a line of the log.
* `Occurrence`, `Trace` — a call, an answer or a line, and a row of them.
* `Trace.calls`, `Trace.outcomes`, `Trace.lines`, `Trace.signal` — what a row tells of each.

## References

The calls are those of the reference's `EventSource` and `AlertEmitter`, and the lines are those
that `run`, `handle` and `process` of its `DetectionLoop` write; its specification, 10.3.
-/

namespace IbanWatch

open Text Shutdown

/-! ### Calls -/

/-- A call of the source or the emitter. -/
inductive Call where
  /-- The source is asked for a message, to come within so many milliseconds. -/
  | poll (timeout : UInt64)
  /-- An alert is handed to the emitter. -/
  | send (topic key : String) (payload : Bytes)
  /-- The emitter is to have everything acknowledged within so many milliseconds. -/
  | flush (timeout : UInt64)
  /-- The source is released. -/
  | close
  deriving DecidableEq, Repr

/-! ### Log lines -/

/-- How much a log line matters. -/
inductive Level where
  /-- For those who look for a fault. -/
  | debug
  /-- For everyone. -/
  | info
  /-- Something is suspicious. -/
  | warn
  /-- Something failed. -/
  | error
  deriving DecidableEq, Repr

/-- A line of the log. -/
inductive LogLine where
  /-- The watch begins, with this topic for its alerts. -/
  | running (alertTopic : String)
  /-- A partition has no more messages for now. -/
  | partitionEnd
  /-- The stream failed. -/
  | streamFailed (f : Failure)
  /-- An event was understood. -/
  | received (event : AuditEvent)
  /-- The identifier in an event is valid. -/
  | safe (event : AuditEvent)
  /-- The identifier in an event is not valid. -/
  | suspicious (event : AuditEvent) (reason : Iban.Defect)
  /-- A message was handled and failed. -/
  | failed (partition offset : Int) (f : Failure)
  /-- The watch comes to its end. -/
  | stopping
  /-- The watch has ended with these counts. -/
  | stopped (stats : Stats)
  deriving DecidableEq, Repr

namespace LogLine

/-- How much the line matters. -/
def level : LogLine → Level
  | .running _ | .stopping | .stopped _ => .info
  | .partitionEnd | .received _ | .safe _ => .debug
  | .suspicious _ _ => .warn
  | .streamFailed _ => .error
  | .failed _ _ (.delivery _) => .error
  | .failed _ _ _ => .warn

/-- The text of the line. -/
def text : LogLine → String
  | .running alertTopic => s!"Fraud detection loop running, alerts go to '{alertTopic}'"
  | .partitionEnd => "Reached end of partition"
  | .streamFailed f => s!"Consumer error: {f.message}"
  | .received event =>
      s!"Received audit event {quoted event.eventType} for user {quoted event.userId}"
  | .safe event => s!"IBAN for user {quoted event.userId} looks safe"
  | .suspicious event reason =>
      s!"Suspicious IBAN {quoted event.newIban} for user {quoted event.userId}: {reason.message}"
  | .failed partition offset (.delivery problem) =>
      s!"Failed to deliver fraud alert for message at partition {partition} offset {offset}: "
        ++ (Failure.delivery problem).message
  | .failed partition offset f =>
      s!"Error processing message at partition {partition} offset {offset}: {f.message}"
  | .stopping => "Shutting down fraud detection loop"
  | .stopped stats => s!"Fraud detection loop stopped: {stats.summary}"

end LogLine

/-! ### All in one row -/

/-- Something that happens between a watch and its surroundings. -/
inductive Occurrence where
  /-- The watch makes a call. -/
  | call (c : Call)
  /-- The source answers a poll, and this is what the watch sees of it. -/
  | polled (reply : PollReply) (seen : Polled)
  /-- The emitter answers a call. -/
  | answered (reply : EmitterReply)
  /-- The emitter is asked how many alerts were refused, by the reference's `rejected_deliveries`,
  and answers this. -/
  | counted (refused : UInt64)
  /-- The watch logs a line. -/
  | log (l : LogLine)
  deriving DecidableEq, Repr

/-- What happens, in its order. -/
abbrev Trace := List Occurrence

namespace Trace

/-- The calls. -/
def calls (t : Trace) : List Call :=
  t.filterMap fun
    | .call c => some c
    | _ => none

/-- The outcomes of the polls that came to their end. -/
def outcomes (t : Trace) : List Outcome :=
  t.filterMap fun
    | .polled _ (.completed o) => some o
    | _ => none

/-- The log lines. -/
def lines (t : Trace) : List LogLine :=
  t.filterMap fun
    | .log l => some l
    | _ => none

/-- What has become of the shutdown trigger after all this. -/
def signal (s : Signal) (t : Trace) : Signal :=
  t.foldl (fun s o =>
    match o with
    | .polled reply _ => (reply.poll s).2
    | .answered reply => moveTrigger reply.fires reply.drops s
    | .call _ | .counted _ | .log _ => s) s

@[simp] theorem calls_append (t u : Trace) : calls (t ++ u) = calls t ++ calls u :=
  List.filterMap_append

@[simp] theorem outcomes_append (t u : Trace) : outcomes (t ++ u) = outcomes t ++ outcomes u :=
  List.filterMap_append

@[simp] theorem lines_append (t u : Trace) : lines (t ++ u) = lines t ++ lines u :=
  List.filterMap_append

@[simp] theorem signal_append (s : Signal) (t u : Trace) :
    signal s (t ++ u) = signal (signal s t) u :=
  List.foldl_append

end Trace

end IbanWatch
