import IbanWatch.Detection.Record
import IbanWatch.Ending
import IbanWatch.FraudAlert

/-!
# Handling one message

A message goes through four steps: it is decoded, events of other kinds are put aside, the
identifier is checked, and for one that is not valid an alert is handed over and flushed.  Every
failure is given back to the caller, so that it stays with its message; only a call that unwinds
goes through.

## Main definitions

* `Settings`, `Phase`, `Watch` — what a watch is told, how far it is, and all that it holds.
* `Report` — what became of a call into a watch.
* `Watch.emit`, `Watch.process`, `Watch.handle` — an alert, a message, the outcome of a poll.
* `Watch.stop`, `Watch.drop` — the release of the source, at the end of a run and in any case.

## References

The reference's `DetectionLoop`, with its methods `process`, `emit`, `handle`, `record` and `stop`;
its specification, 4.4, 7 and 10.6.
-/

namespace IbanWatch

open Text Shutdown Time

/-- What a watch is told, the reference's `DetectionSettings`. -/
structure Settings where
  /-- The topic for its alerts. -/
  alertTopic : String
  /-- How long a poll may take, in milliseconds. -/
  pollTimeout : UInt64
  /-- How long a flush may take, in milliseconds. -/
  flushTimeout : UInt64
  deriving DecidableEq, Repr

/-- How far a watch is, the reference's `LoopState`. -/
inductive Phase where
  /-- It polls. -/
  | running
  /-- It polls no more. -/
  | shuttingDown
  /-- It has released its source. -/
  | stopped
  deriving DecidableEq, Repr

/-- A watch with what it depends on: the shutdown signal, the emitter and the clock.  The
reference's `DetectionLoop`, whose source is the script of a run here. -/
structure Watch where
  /-- What it is told. -/
  settings : Settings
  /-- How far it is. -/
  phase : Phase := .running
  /-- Its own counts.  The refused alerts are counted by the emitter. -/
  counts : Stats := {}
  /-- The shutdown signal it listens to. -/
  signal : Signal := {}
  /-- The emitter of its alerts. -/
  emitter : Emitter := {}
  /-- The instant that the clock shows at each reading. -/
  clock : Nat → Instant
  /-- How often the clock was read. -/
  readings : Nat := 0

/-- The end of a call of the emitter, as the caller sees it. -/
def CallEnd.ending : CallEnd → Ending (Except Failure Unit)
  | .succeeds => .returned (.ok ())
  | .fails f => .returned (.error f)
  | .unwinds => .unwound

/-- What became of a call into a watch. -/
structure Report (α : Type) where
  /-- How it ended. -/
  ending : Ending α
  /-- The watch after it. -/
  watch : Watch
  /-- What happened. -/
  trace : Trace

namespace Watch

/-- A watch that has done nothing yet, the reference's `DetectionLoop::new`. -/
def fresh (settings : Settings) (signal : Signal) (emitter : Emitter) (clock : Nat → Instant) :
    Watch :=
  { settings, signal, emitter, clock }

/-- The counts, with the refused alerts as the emitter reports them; the reference's `stats`. -/
def stats (w : Watch) : Stats := { w.counts with rejectedDeliveries := w.emitter.rejected }

/-! ### Alerts -/

/-- The watch after the emitter gave this answer and went on as `emitter`. -/
def answered (w : Watch) (reply : EmitterReply) (emitter : Emitter) : Watch :=
  { w with emitter, signal := moveTrigger reply.fires reply.drops w.signal }

/-- Waits for the acknowledgement of what was sent. -/
def flush (w : Watch) : Report (Except Failure Unit) :=
  let (reply, emitter) := w.emitter.takeFlush
  ⟨reply.ending.ending, w.answered reply emitter,
    [.call (.flush w.settings.flushTimeout), .answered reply]⟩

/-- The call that hands over an alert. -/
def sendCall (w : Watch) (alert : FraudAlert) : Call :=
  .send w.settings.alertTopic alert.userId alert.encode

/-- The alert for an event, at the next reading of the clock. -/
def alertFor (w : Watch) (event : AuditEvent) : FraudAlert :=
  .invalidIban event (w.clock w.readings)

/-- Reads the clock and hands over the alert for an event. -/
def send (w : Watch) (event : AuditEvent) : Report (Except Failure Unit) :=
  let (reply, emitter) := w.emitter.takeSend
  ⟨reply.ending.ending, { w.answered reply emitter with readings := w.readings + 1 },
    [.call (w.sendCall (w.alertFor event)), .answered reply]⟩

/-- Counts an alert that the emitter took. -/
def countAlert (w : Watch) : Watch :=
  { w with counts.alertsRaised := w.counts.alertsRaised + 1 }

/-- Hands over the alert for an event, and flushes if the emitter took it: the reference's
`DetectionLoop::emit`. -/
def emit (w : Watch) (event : AuditEvent) : Report (Except Failure Unit) :=
  let sent := w.send event
  match sent.ending with
  | .returned (.ok _) =>
    let flushed := sent.watch.countAlert.flush
    { flushed with trace := sent.trace ++ flushed.trace }
  | .returned (.error _) | .unwound => sent

/-! ### Messages -/

/-- Raises the alert for an event whose identifier is not valid. -/
def raise (w : Watch) (event : AuditEvent) : Report (Except Failure Verdict) :=
  let report := w.emit event
  ⟨report.ending.map (·.map fun _ => .alertRaised), report.watch, report.trace⟩

/-- Counts an event that gives a user a new identifier. -/
def countEvent (w : Watch) : Watch :=
  { w with counts.ibanEvents := w.counts.ibanEvents + 1 }

/-- Checks the identifier in an event, the second half of the reference's `process`. -/
def inspect (w : Watch) (event : AuditEvent) : Report (Except Failure Verdict) :=
  if event.isIbanUpdate then
    let w := w.countEvent
    match Iban.check event.newIban with
    | .ok _ => ⟨.returned (.ok .validIban), w, [.log (.safe event)]⟩
    | .error reason =>
      let report := w.raise event
      { report with trace := .log (.suspicious event reason) :: report.trace }
  else ⟨.returned (.ok .ignored), w, []⟩

/-- The event that a message tells of. -/
def eventOf (m : Message) : Except Failure AuditEvent :=
  match m.payload with
  | none => .error (.decode "message has no payload")
  | some payload =>
    match AuditEvent.decode payload with
    | .error misread => .error (.decode misread.message)
    | .ok event => .ok event

/-- Takes one message through all steps, the reference's `DetectionLoop::process`. -/
def process (w : Watch) (m : Message) : Report (Except Failure Verdict) :=
  match eventOf m with
  | .error f => ⟨.returned (.error f), w, []⟩
  | .ok event =>
    let report := w.inspect event
    { report with trace := .log (.received event) :: report.trace }

/-! ### Outcomes of a poll -/

/-- The line that tells of a failed message. -/
def failureLines (m : Message) : Except Failure Verdict → Trace
  | .ok _ => []
  | .error f => [.log (.failed m.partition m.offset f)]

/-- Counts a message that is handled. -/
def countMessage (w : Watch) : Watch := { w with counts.messages := w.counts.messages + 1 }

/-- Handles what a poll brought, the reference's `DetectionLoop::handle`. -/
def handle (w : Watch) : Outcome → Report Unit
  | .idle => ⟨.returned (), w, []⟩
  | .partitionEnd => ⟨.returned (), w, [.log .partitionEnd]⟩
  | .failure f =>
    let w := { w with counts.transportErrors := w.counts.transportErrors + 1 }
    ⟨.returned (), w, [.log (.streamFailed f)]⟩
  | .message m =>
    let report := w.countMessage.process m
    match report.ending with
    | .unwound => ⟨.unwound, report.watch, report.trace⟩
    | .returned result =>
      ⟨.returned (), { report.watch with counts := report.watch.counts.record result },
        report.trace ++ failureLines m result⟩

/-! ### The release of the source -/

/-- Releases the source, unless that was done before; the reference's `DetectionLoop::stop`. -/
def stop (w : Watch) : Watch × Trace :=
  match w.phase with
  | .stopped => (w, [])
  | _ => ({ w with phase := .stopped }, [.call .close])

/-- Lets go of the watch, by which the source is released if it was not released before; the `Drop`
of the reference's `DetectionLoop`. -/
def drop (w : Watch) : Watch × Trace := w.stop

end Watch

end IbanWatch
