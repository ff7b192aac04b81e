import IbanWatch.AuditEvent
import IbanWatch.Time.Instant

/-!
# Fraud alerts

An alert tells of an event whose new identifier is not valid.  It is written as a JSON object of
four strings, always in the same order and without white space.

## Main definitions

* `FraudAlert`, `FraudAlert.invalidIban` — an alert, and the alert for an event.
* `FraudAlert.encode` — the payload of an alert.

## References

The reference's `FraudAlert` and `codec::encode`; its specification, 3, 4.2 and 10.6.
-/

namespace IbanWatch

open Text Json Time

/-- The kind of event that an alert is. -/
def fraudDetected : String := "FRAUD_DETECTED"

/-- What is told of an event that looks like fraud, the reference's `FraudAlert`. -/
structure FraudAlert where
  /-- The kind of event. -/
  eventType : String
  /-- The user concerned. -/
  userId : String
  /-- What is wrong. -/
  details : String
  /-- When it was noticed. -/
  timestamp : Instant
  deriving DecidableEq

namespace FraudAlert

/-- The alert for an event whose identifier is not valid, noticed at `detectedAt`; the reference's
`FraudAlert::invalid_iban`. -/
def invalidIban (event : AuditEvent) (detectedAt : Instant) : FraudAlert where
  eventType := fraudDetected
  userId := event.userId
  details := s!"Invalid IBAN detected: '{event.newIban}'"
  timestamp := detectedAt

/-- The members of the object that an alert is written as. -/
def members (alert : FraudAlert) : List (String × String) :=
  [("EventType", alert.eventType), ("UserId", alert.userId), ("Details", alert.details),
    ("Timestamp", alert.timestamp.timestamp)]

/-- The payload of an alert, the reference's `codec::encode`. -/
def encode (alert : FraudAlert) : Bytes := utf8 (writeTexts alert.members)

end FraudAlert

end IbanWatch
