import IbanWatch.FraudAlert
import IbanWatch.Proofs.Event.Decoding
import IbanWatch.Proofs.Json.Writing

/-!
# Alerts read back

An alert is made of strings that users chose, and whatever these are its payload is an object with
the same four strings.  Nothing that stands in one of them can become a member of its own.  Read as
an event, an alert is of the kind of alerts and brings no identifier.

## Main results

* `read_encode`, `decode_encode` — an alert as a value and as an event.
* `encode_invalidIban` — **the alert for an event reads back, character for character.**
-/

namespace IbanWatch

open Text Json Time

namespace FraudAlert

theorem read_encode (alert : FraudAlert) :
    Json.read alert.encode = .ok (.object (textMembers alert.members)) :=
  read_writeTexts alert.members

/-- **Read as an event, an alert keeps its kind and its user and has no identifier.** -/
theorem decode_encode (alert : FraudAlert) :
    AuditEvent.decode alert.encode = .ok ⟨alert.eventType, alert.userId, ""⟩ := by
  have hfield : ∀ key s, lastMember? (textMembers alert.members) key = some (.text s) →
      AuditEvent.field (textMembers alert.members) key = .ok s := by
    intro key s h
    rw [AuditEvent.field, h]
  have habsent : AuditEvent.field (textMembers alert.members) "NewIban" = .ok "" := by
    rw [AuditEvent.field]
    rfl
  rw [AuditEvent.decode_of_object (read_eq_ok_iff.mp alert.read_encode), AuditEvent.ofMembers,
    hfield "EventType" alert.eventType rfl, habsent, hfield "UserId" alert.userId rfl]
  rfl

/-- No byte of the payload of an alert is a control character. -/
theorem le_of_mem_encode (alert : FraudAlert) : ∀ b ∈ alert.encode, 0x20 ≤ b := by
  have hbytes := le_of_mem_encoded (by decide) (le_of_mem_writeTexts alert.members)
  intro b hb
  rw [UInt8.le_iff_toNat_le]
  exact hbytes b hb

theorem encode_ne_nil (alert : FraudAlert) : alert.encode ≠ [] := by
  rw [encode, utf8_eq_encoded, toList_writeTexts, encoded_cons_of_lt (by decide)]
  exact List.cons_ne_nil _ _

/-- **The alert for an event reads back.**  Its payload is a text without control characters that
holds an object of four strings, the user and the identifier in them as they are in the event, and
that is decoded as an event with that user and without an identifier. -/
theorem encode_invalidIban (event : AuditEvent) (detectedAt : Instant) :
    (invalidIban event detectedAt).encode ≠ []
    ∧ (∃ text, (invalidIban event detectedAt).encode = utf8 text)
    ∧ (∀ b ∈ (invalidIban event detectedAt).encode, 0x20 ≤ b)
    ∧ Json.read (invalidIban event detectedAt).encode = .ok (.object
        [("EventType", .text "FRAUD_DETECTED"), ("UserId", .text event.userId),
          ("Details", .text ("Invalid IBAN detected: '" ++ event.newIban ++ "'")),
          ("Timestamp", .text detectedAt.timestamp)])
    ∧ AuditEvent.decode (invalidIban event detectedAt).encode
        = .ok ⟨"FRAUD_DETECTED", event.userId, ""⟩ := by
  refine ⟨encode_ne_nil _, ⟨_, rfl⟩, le_of_mem_encode _, ?_, ?_⟩
  -- The four members in the order in which they are written.
  · rw [read_encode]
    simp only [textMembers, members, invalidIban, fraudDetected, toString, List.map_cons,
      List.map_nil]
  · rw [decode_encode]
    rfl

end FraudAlert

end IbanWatch
