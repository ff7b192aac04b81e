import IbanWatch.Json.Reader

/-!
# Audit events

An audit event comes as a JSON object.  Three of its members matter: the kind of event, the user
and the new identifier.  A member that is absent or null counts as the empty string; any other
member is passed over, so that later versions of the event can still be read.

## Main definitions

* `AuditEvent` — an event that was understood.
* `AuditEvent.decode` — reads an event from its payload.
* `Misread` — why a payload is no event.

## References

The reference's `AuditEvent` and `codec::decode`; its specification, 3, 4.2 and 10.6.  The JSON is
read as by its `serde_json`, first into a value and from that into the event.
-/

namespace IbanWatch

open Text Json

/-- The kind of event by which a user gets a new identifier. -/
def ibanUpdated : String := "IBAN_UPDATED"

/-- What is known of an event in the life of an account, the reference's `AuditEvent`. -/
structure AuditEvent where
  /-- The kind of event. -/
  eventType : String
  /-- The user it happened to. -/
  userId : String
  /-- The identifier as it was entered. -/
  newIban : String
  deriving DecidableEq, Repr

/-- Whether the event gives the user a new identifier, the reference's `is_iban_update`. -/
def AuditEvent.isIbanUpdate (event : AuditEvent) : Bool := event.eventType = ibanUpdated

/-- Why a payload is no event. -/
inductive Misread where
  /-- The payload is not JSON. -/
  | notJson (cause : Cause) (place : Position)
  /-- The payload is JSON, but no object. -/
  | notObject (found : Value)
  /-- One of the three members is not a string. -/
  | notString (found : Value)

/-- The reason in words. -/
def Misread.message : Misread → String
  | .notJson cause place =>
      s!"invalid JSON: {cause.message} at line {place.line} column {place.column}"
  | .notObject found => s!"expected a JSON object, found {found.kind}"
  | .notString found => s!"invalid type: {found.description}, expected a string"

namespace AuditEvent

/-- The string under a key of an object; an absent or null member counts as the empty string, by the
reference's `null_as_empty`. -/
def field (members : List (String × Value)) (key : String) : Except Misread String :=
  match lastMember? members key with
  | none | some .null => .ok ""
  | some (.text s) => .ok s
  | some found => .error (.notString found)

/-- The event in the members of an object.  Of several members with a wrong type the first in the
order of the keys is reported. -/
def ofMembers (members : List (String × Value)) : Except Misread AuditEvent := do
  let eventType ← field members "EventType"
  let newIban ← field members "NewIban"
  let userId ← field members "UserId"
  return { eventType, userId, newIban }

/-- The event in a payload, the reference's `codec::decode`. -/
def decode (payload : Bytes) : Except Misread AuditEvent :=
  match read payload with
  | .error fault => .error (.notJson fault.cause (fault.position payload))
  | .ok (.object members) => ofMembers members
  | .ok found => .error (.notObject found)

end AuditEvent

end IbanWatch
