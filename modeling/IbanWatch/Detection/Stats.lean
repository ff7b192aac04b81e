import IbanWatch.Failure

/-!
# Counts of a watch

What a watch counts while it runs, and the one line that tells of it at the end.

## Main definitions

* `Verdict` — what became of a message that did not fail.
* `Stats` — the nine counts.
* `Stats.record` — the counts after a message was handled.
* `Stats.summary` — the counts on one line.

## References

The reference's `Verdict` and `DetectionStats`; its specification, 10.6.
-/

namespace IbanWatch

/-- What became of a message that did not fail, the reference's `Verdict`. -/
inductive Verdict where
  /-- The event is of another kind. -/
  | ignored
  /-- The identifier is valid. -/
  | validIban
  /-- The identifier is not valid, and an alert was handed over. -/
  | alertRaised
  deriving DecidableEq, Repr

/-- The counts of a watch, the reference's `DetectionStats`.  The first eight are kept by the watch
itself and are natural numbers here, where the reference has 64-bit words: no message moves one of
them by more than one, so the two agree as long as fewer than `2 ^ 64` messages come in
(`Watch.fits_session`).  The ninth is the word that the emitter reports. -/
structure Stats where
  /-- Messages that were handled. -/
  messages : Nat := 0
  /-- Handled messages with an event of another kind. -/
  ignoredEvents : Nat := 0
  /-- Events that give a user a new identifier. -/
  ibanEvents : Nat := 0
  /-- Handled messages whose identifier is valid. -/
  validIbans : Nat := 0
  /-- Alerts that the emitter took. -/
  alertsRaised : Nat := 0
  /-- Handled messages that could not be understood. -/
  decodeFailures : Nat := 0
  /-- Failures of the stream. -/
  transportErrors : Nat := 0
  /-- Handled messages whose alert could not be handed over. -/
  deliveryFailures : Nat := 0
  /-- Alerts that were taken and refused later, as the emitter reports them. -/
  rejectedDeliveries : UInt64 := 0
  deriving DecidableEq, Repr

namespace Stats

/-- The counts after a message was handled with this result, the reference's `record` with the arms
of `handle` for failures.  A failure to deliver is counted as such, and every other failure as one
to decode. -/
def record (s : Stats) : Except Failure Verdict → Stats
  | .ok .ignored => { s with ignoredEvents := s.ignoredEvents + 1 }
  | .ok .validIban => { s with validIbans := s.validIbans + 1 }
  | .ok .alertRaised => s
  | .error (.delivery _) => { s with deliveryFailures := s.deliveryFailures + 1 }
  | .error _ => { s with decodeFailures := s.decodeFailures + 1 }

/-- The counts with their names, in the order of the summary. -/
def entries (s : Stats) : List (String × Nat) :=
  [("messages", s.messages), ("ignored", s.ignoredEvents), ("iban_updates", s.ibanEvents),
    ("valid", s.validIbans), ("alerts", s.alertsRaised), ("decode_failures", s.decodeFailures),
    ("transport_errors", s.transportErrors), ("delivery_failures", s.deliveryFailures),
    ("rejected_deliveries", s.rejectedDeliveries.toNat)]

/-- The counts on one line, as the reference displays its `DetectionStats`. -/
def summary (s : Stats) : String :=
  " ".intercalate (s.entries.map fun (name, count) => s!"{name}={count}")

end Stats

end IbanWatch
