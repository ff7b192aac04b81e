import IbanWatch.Config.Basic
import IbanWatch.Ending
import IbanWatch.Pattern.Shape

/-!
# The client of the stream

A client is made from the configuration of the stream and may be refused: its options have bounds,
and they have to fit each other.  Here no broker is ever reached.  Such a client waits in vain for
messages and keeps every alert that it takes, so that a flush can succeed only before the first one.
It takes no alert that is too long, or that is for a topic with too long a name.  A topic with a NUL
in its name is neither refused nor taken: the client unwinds.

## Main definitions

* `Client.Refusal`, with `Client.Refusal.message` — why there is no client.
* `Client.checkOptions`, `Client.subscribe` — the two steps in which a client is made.
* `Client.connect` — how it ends when a client is made from a configuration.
* `Client`, `Client.step` — a client that reaches no broker, and what can be asked of it.

## References

The reference's `KafkaEventSource` and `KafkaAlertEmitter`; its specification, 4.3, 6 and 10.4.  The
options are checked as by `librdkafka`, which both are built on.
-/

namespace IbanWatch

namespace Client

open Text

/-! ### Options -/

/-- Why there is no client, the reference's `StartupError::Kafka`. -/
inductive Refusal where
  /-- The session timeout was given as one number, taken as another and is out of bounds. -/
  | sessionTimeout (given : UInt64) (taken : Int)
  /-- Nobody said where a new group begins to read. -/
  | noOffsetReset
  /-- This is no place to begin to read. -/
  | badOffsetReset (given : String)
  /-- A silent reader would be kept longer than one that does not ask for messages. -/
  | sessionTooLong
  /-- A reader has to belong to a group. -/
  | noGroup
  /-- The topic that is watched has no name. -/
  | noTopic
  /-- The topics that are watched are given by a pattern that is not well formed. -/
  | badPattern
  /-- An option has the character NUL in it. -/
  | nulInOption
  deriving DecidableEq, Repr

/-- Whether the character is white space of ASCII. -/
def isAsciiSpace (c : Char) : Bool := c == ' ' || ('\t' ≤ c && c ≤ '\r')

/-- The text from its first character that is not white space of ASCII. -/
def trimAsciiStart (s : String) : String := String.ofList (s.toList.dropWhile isAsciiSpace)

/-- How many bytes the reason for a bad option may have. -/
def reasonLimit : Nat := 511

/-- As much of a text as fits into so many bytes.  A character that is cut through is shown by the
replacement character. -/
def clip : (bytes : Nat) → List Char → List Char
  | _, [] => []
  | bytes, c :: rest =>
    if c.utf8Size ≤ bytes then c :: clip (bytes - c.utf8Size) rest
    else if bytes = 0 then []
    else ['\ufffd']

/-- The message about a bad option: a reason, the name of the option and what was given for it. -/
def badOption (reason option given : String) : String :=
  let reason := String.ofList (clip reasonLimit reason.toList)
  s!"Client config error: {reason} {option} {given}"

/-- The refusal in words. -/
def Refusal.message : Refusal → String
  | .sessionTimeout given taken =>
      "kafka client error: " ++ badOption
        (s!"Configuration property \"session.timeout.ms\" value {taken} is outside allowed range "
          ++ "1..3600000\n")
        "session.timeout.ms" (toString given)
  | .noOffsetReset =>
      "kafka client error: " ++ badOption
        "Configuration property \"auto.offset.reset\" cannot be set to empty value"
        "auto.offset.reset" ""
  | .badOffsetReset given =>
      "kafka client error: " ++ badOption
        (s!"Invalid value \"{trimAsciiStart given}\" for configuration property "
          ++ "\"auto.offset.reset\"")
        "auto.offset.reset" given
  | .sessionTooLong =>
      "kafka client error: Client creation error: "
        ++ "`max.poll.interval.ms`must be >= `session.timeout.ms`"
  | .noGroup =>
      "kafka client error: Client creation error: rdkafka consumer queue not available"
  | .noTopic | .badPattern =>
      "kafka client error: Subscription error: Local: Invalid argument or configuration"
  | .nulInOption => "kafka client error: FFI nul error"

/-- The places at which a new group may begin to read. -/
def offsetResets : List String :=
  ["smallest", "earliest", "beginning", "largest", "latest", "end", "error"]

/-- Refuses a text that is no place to begin to read.  Letter case and white space before it do not
matter, and white space alone keeps the place that is there. -/
def checkOffsetReset (given : String) : Except Refusal Unit :=
  let word := String.ofList ((trimAsciiStart given).toList.map Char.toLower)
  if given = "" then .error .noOffsetReset
  else if word = "" ∨ word ∈ offsetResets then .ok ()
  else .error (.badOffsetReset given)

/-- The session timeout as an option: the number is cut off above `2 ^ 63 - 1`, and of its binary
digits the lower 32 count, with their sign. -/
def takenTimeout (given : UInt64) : Int := Int.bmod (min given.toNat 0x7FFFFFFFFFFFFFFF) 0x100000000

/-- The longest session timeout, in milliseconds. -/
def sessionBound : Int := 3600000

/-- How long a reader may go without asking for messages, in milliseconds. -/
def pollInterval : Int := 300000

/-- Refuses an option with the character NUL in it, at which the text of an option ends. -/
def checkOption (given : String) : Except Refusal Unit :=
  if hasNul given then .error .nulInOption else .ok ()

/-- Refuses a name that stands for no topic.  One that begins with a circumflex is a pattern and
stands for all topics whose names it matches. -/
def checkTopic (name : String) : Except Refusal Unit :=
  if name = "" then .error .noTopic
  else if name.toList.head? = some '^' ∧ !Pattern.isWellFormed name then .error .badPattern
  else .ok ()

/-- Refuses options with which no client can be made. -/
def checkOptions (config : StreamConfig) : Except Refusal Unit := do
  checkOption config.brokers
  checkOption config.groupId
  checkOption config.autoOffsetReset
  let timeout := takenTimeout config.sessionTimeout
  if timeout < 1 ∨ sessionBound < timeout then
    throw (.sessionTimeout config.sessionTimeout timeout)
  checkOffsetReset config.autoOffsetReset
  if pollInterval < timeout then throw .sessionTooLong
  if trimAsciiStart config.groupId = "" then throw .noGroup

/-- Asks for the messages of a topic.  A name with a NUL cannot be asked by: to try it unwinds. -/
def subscribe (topic : String) : Ending (Except Refusal Unit) :=
  if hasNul topic then .unwound else .returned (checkTopic topic)

/-- How it ends when a client is made from a configuration, as `new` of the reference's
`KafkaEventSource` and `KafkaAlertEmitter` make it. -/
def connect (config : StreamConfig) : Ending (Except Refusal Unit) :=
  match checkOptions config with
  | .error refusal => .returned (.error refusal)
  | .ok () => subscribe config.topic

end Client

/-! ### A client that reaches no broker -/

/-- A client that reaches no broker: the reference's `KafkaEventSource` and `KafkaAlertEmitter`. -/
structure Client where
  /-- Its source was released. -/
  closed : Bool := false
  /-- How many alerts it has taken. -/
  queued : Nat := 0
  deriving DecidableEq, Repr

namespace Client

open Text

/-- What can be asked of a client. -/
inductive Request where
  /-- Wait for a message. -/
  | poll
  /-- Release the source. -/
  | close
  /-- Take an alert for a topic. -/
  | send (topic key payload : String)
  /-- Wait until every alert is acknowledged. -/
  | flush
  /-- How many alerts were refused. -/
  | rejected
  deriving DecidableEq, Repr

/-- What a client answers. -/
inductive Reply where
  /-- It was done. -/
  | ok
  /-- Nothing came. -/
  | idle
  /-- It failed. -/
  | failed (f : Failure)
  /-- A number of alerts. -/
  | count (n : Nat)
  /-- The request unwinds. -/
  | unwound
  deriving DecidableEq, Repr

/-- How many bytes the name of a topic for alerts may have. -/
def topicLimit : Nat := 512

/-- How many bytes an alert may have. -/
def alertLimit : Nat := 1000000

/-- How many bytes an alert may need besides its key and its payload. -/
def alertOverhead : Nat := 36

/-- Why an alert is not taken, if it is not. -/
def sendFailure? (topic key payload : String) : Option Failure :=
  if topicLimit < topic.utf8ByteSize then
    some (.delivery ("Message production error: "
      ++ "InvalidArgument (Local: Invalid argument or configuration)"))
  else if alertLimit < alertOverhead + key.utf8ByteSize + payload.utf8ByteSize then
    some (.delivery ("Message production error: "
      ++ "MessageSizeTooLarge (Broker: Message size too large)"))
  else none

/-- Answers one request. -/
def step (c : Client) : Request → Reply × Client
  | .poll => (if c.closed then .failed (.transport "consumer already closed") else .idle, c)
  | .close => (.ok, { c with closed := true })
  | .send topic key payload =>
    if hasNul topic then (.unwound, c)
    else match sendFailure? topic key payload with
      | some f => (.failed f, c)
      | none => (.ok, { c with queued := c.queued + 1 })
  | .flush =>
    if c.queued = 0 then (.ok, c)
    else
      (.failed (.delivery ("flush did not complete: "
        ++ "Flush error: OperationTimedOut (Local: Timed out)")), c)
  | .rejected => (.count 0, c)

/-- The answers to a row of requests. -/
def run (c : Client) : List Request → List Reply
  | [] => []
  | r :: rest =>
    let (reply, c) := c.step r
    reply :: c.run rest

end Client

example : (Client.run {} [.flush, .send "t" "k" "p", .flush, .close, .poll]).map (· == .ok)
    = [true, true, false, true, false] := by decide +kernel

end IbanWatch
