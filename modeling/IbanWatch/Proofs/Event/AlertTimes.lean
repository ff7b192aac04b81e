import IbanWatch.Proofs.Event.AlertPayload
import IbanWatch.Proofs.Time.Timestamps

/-!
# What the payload of an alert tells

The payload of an alert reads back as its four strings, and none of them loses anything: the user is
there as it is, the identifier stands between fixed words, and the timestamp counts back to the
instant.  So whoever has the payload has all three, and two alerts that differ in one of them have
different payloads.

## Main definitions

* `TellsTime` — everything that the payload of an alert tells about its instant.

## Main results

* `encode_eq_encode_iff` — two alerts have the same payload just when user, identifier and instant
  are the same.
* `tellsTime_encode` — **the timestamp in a payload shows the date and time of the instant and
  counts back to it**.
-/

namespace IbanWatch

open Text Json Time

namespace FraudAlert

/-- The words around an identifier are always the same. -/
theorem details_inj {iban other : String}
    (h : s!"Invalid IBAN detected: '{iban}'" = s!"Invalid IBAN detected: '{other}'") :
    iban = other := by
  have hlist := congrArg String.toList h
  rw [← String.toList_inj]
  simpa [toString] using hlist

/-- The payload of the alert for an event has a member with the timestamp of the instant. -/
theorem read_encode_timestamp (event : AuditEvent) (t : Instant) :
    ∃ members, Json.read (invalidIban event t).encode = .ok (.object members)
      ∧ lastMember? members "Timestamp" = some (.text t.timestamp) :=
  ⟨_, read_encode _, rfl⟩

/-- **Two alerts have the same payload** just when user, identifier and instant are the same. -/
theorem encode_eq_encode_iff (event event' : AuditEvent) (t t' : Instant) :
    (invalidIban event t).encode = (invalidIban event' t').encode
      ↔ event.userId = event'.userId ∧ event.newIban = event'.newIban ∧ t = t' := by
  constructor
  · intro heq
    have hread := read_encode (invalidIban event t)
    rw [heq, read_encode] at hread
    have hmembers := Value.object.inj (Except.ok.inj hread)
    simp only [textMembers, members, invalidIban, List.map_cons, List.map_nil, List.cons.injEq,
      Prod.mk.injEq, Value.text.injEq, true_and, and_true] at hmembers
    obtain ⟨huser, hdetails, htimestamp⟩ := hmembers
    exact ⟨huser.symm, (details_inj hdetails).symm, (timestamp_injective htimestamp).symm⟩
  · rintro ⟨huser, hiban, rfl⟩
    rw [invalidIban, invalidIban, huser, hiban]

/-- Everything that the payload of the alert for an event tells about its instant. -/
structure TellsTime (event : AuditEvent) (t : Instant) : Prop where
  /-- The timestamp in the payload shows a date of the calendar and a time of day, in a year from
  -262143 to 262142, with the second 60 for a leap second. -/
  shown : ∃ members stamp c, Json.read (invalidIban event t).encode = .ok (.object members)
    ∧ lastMember? members "Timestamp" = some (.text stamp) ∧ Shows c stamp.toList ∧ c.IsValid
    ∧ (-262143 ≤ c.date.year ∧ c.date.year ≤ 262142)
    ∧ (c.second = 60 ↔ nanosPerSecond ≤ t.nanos)
  /-- Whatever date and time are read off the timestamp, they count back to the instant. -/
  counted : ∀ members stamp c, Json.read (invalidIban event t).encode = .ok (.object members) →
    lastMember? members "Timestamp" = some (.text stamp) → Shows c stamp.toList →
    c.seconds = t.seconds ∧ c.nanos = t.nanos ∧ Instant.ofUnix? c.seconds c.nanos = some t
  /-- Another alert has the same payload just when user, identifier and instant are the same. -/
  distinct : ∀ other otherTime,
    (invalidIban event t).encode = (invalidIban other otherTime).encode
      ↔ event.userId = other.userId ∧ event.newIban = other.newIban ∧ t = otherTime

/-- **The timestamp in a payload shows the date and time of the instant and counts back to it**, so
that alerts with different users, identifiers or instants have different payloads. -/
theorem tellsTime_encode (event : AuditEvent) (t : Instant) : TellsTime event t := by
  obtain ⟨members, hread, hmember⟩ := read_encode_timestamp event t
  refine ⟨⟨members, t.timestamp, t.civil, hread, hmember, shows_timestamp t, t.isValid_civil,
    t.year_bounds, t.second_civil⟩, ?_, fun other time => encode_eq_encode_iff event other t time⟩
  intro members' stamp c hread' hstamp hshows
  obtain rfl : members = members' := Value.object.inj (Except.ok.inj (hread.symm.trans hread'))
  obtain rfl : t.timestamp = stamp := Value.text.inj (Option.some.inj (hmember.symm.trans hstamp))
  obtain rfl : c = t.civil := hshows.unique (shows_timestamp t)
  rw [t.seconds_civil, t.nanos_civil]
  exact ⟨rfl, rfl, dif_pos t.exists_instant⟩

/-- A leap second at the end of the first day, in an alert that shows it as the second 60. -/
example : (Instant.ofUnix? 86399 1500000000).map Instant.timestamp
    = some "1970-01-01T23:59:60.500Z" := by decide +kernel

end FraudAlert

end IbanWatch
