import IbanWatch.Config.Tree
import IbanWatch.Detection.Watch
import IbanWatch.Text.Blank

/-!
# The configuration

What a watch needs to know before it starts: where its stream is, and how long it may wait.

## Main definitions

* `StreamConfig`, `WaitConfig`, `Config` — the two sections with their defaults, and both.
* `Config.Fault`, with `Config.Fault.message` — why there is no configuration to start with.
* `Config.validate` — refuses a configuration that a watch must not start with.
* `Settings.ofConfig` — what a watch is told of it.

## References

The reference's `AppConfig`, `KafkaConfig`, `DetectionConfig` and `StartupError`; its specification,
10.2 and 10.4.
-/

namespace IbanWatch

open Text

/-- Where the stream is and how it is read, the reference's `KafkaConfig`. -/
structure StreamConfig where
  /-- The addresses of the brokers. -/
  brokers : String := ""
  /-- The group of readers. -/
  groupId : String := "fraud-detection-group"
  /-- The topic that is watched. -/
  topic : String := "audit-logs"
  /-- The topic for alerts. -/
  alertTopic : String := "audit-logs"
  /-- Where a new group begins to read. -/
  autoOffsetReset : String := "earliest"
  /-- Whether the end of a partition is reported. -/
  enablePartitionEof : Bool := false
  /-- After how many milliseconds a silent reader is given up. -/
  sessionTimeout : UInt64 := 6000
  deriving DecidableEq, Repr

/-- How long a watch may wait, the reference's `DetectionConfig`. -/
structure WaitConfig where
  /-- For a message, in milliseconds. -/
  pollTimeout : UInt64 := 1000
  /-- For the acknowledgement of an alert, in milliseconds. -/
  flushTimeout : UInt64 := 10000
  deriving DecidableEq, Repr

/-- All that can be configured, the reference's `AppConfig`. -/
structure Config where
  /-- The stream. -/
  stream : StreamConfig := {}
  /-- The waiting times. -/
  waits : WaitConfig := {}
  deriving DecidableEq, Repr

namespace Config

/-! ### Faults -/

/-- What was found where something else was expected. -/
inductive Found where
  /-- A truth value. -/
  | truth (b : Bool)
  /-- An integer. -/
  | integer (n : Int)
  /-- An integer whose size is of interest. -/
  | sizedInteger (n : Int)
  /-- A floating-point number. -/
  | real (x : Float)
  /-- A string. -/
  | text (s : String)
  /-- Nothing at all. -/
  | nothing
  /-- A list. -/
  | list
  /-- A table. -/
  | table
  deriving Repr

/-- What a value without parts is called as such. -/
def Atom.found : Atom → Found
  | .text s => .text s
  | .integer n => .integer n
  | .real x => .real x
  | .truth b => .truth b

/-- What a value is called as such. -/
def Tree.found : Tree → Found
  | .nothing => .nothing
  | .atom value _ => value.found
  | .list _ _ => .list
  | .table _ _ => .table

/-- The number in positional form, with `.0` behind a whole one. -/
def pointedText (x : Float) : String :=
  let shown := plainText x
  if x.isFinite && !shown.toList.contains '.' then shown ++ ".0" else shown

/-- What was found, in words. -/
def Found.description : Found → String
  | .truth b => s!"boolean `{b}`"
  | .integer n => s!"integer `{n}`"
  | .sizedInteger n => s!"64-bit integer `{n}`"
  | .real x => s!"floating point `{pointedText x}`"
  | .text s => s!"string {quoted s}"
  | .nothing => "unit value"
  | .list => "sequence"
  | .table => "map"

/-- Why there is no configuration to start with: the reference's `StartupError::MissingBroker` and
`StartupError::Config`. -/
inductive Fault where
  /-- Nobody said where the brokers are. -/
  | missingBroker
  /-- A topic has no name. -/
  | emptyTopic
  /-- The file at this path is no document. -/
  | notDocument (path : String)
  /-- The document in the file at this path is no table. -/
  | notTable (path : String) (found : Found)
  /-- A value is of the wrong type. -/
  | mistyped (found : Found) (expected : String) (key : Option String) (origin : Option Origin)
  deriving Repr

/-- The fault in words. -/
def Fault.message : Fault → String
  | .missingBroker => "kafka broker address is not configured "
      ++ "(set KAFKA_BOOTSTRAP_SERVERS or APP__KAFKA__BROKERS)"
  | .emptyTopic => "invalid configuration: topic names must not be empty"
  | .notDocument path => s!"invalid configuration: {path} is not a TOML document"
  | .notTable path found =>
      s!"invalid configuration: invalid type: {found.description}, expected a map in {path} "
        ++ s!"in {path}"
  | .mistyped found expected key origin =>
      s!"invalid configuration: invalid type: {found.description}, expected {expected}"
        ++ (key.map fun k => s!" for key `{k}`").getD ""
        ++ (origin.map fun o => s!" in {o.text}").getD ""

/-! ### Validity -/

/-- The configuration itself, unless nobody said where the brokers are or a topic has no name; the
reference's `AppConfig::validate`. -/
def validate (config : Config) : Except Fault Config :=
  if IsBlankText config.stream.brokers then .error .missingBroker
  else if IsBlankText config.stream.topic ∨ IsBlankText config.stream.alertTopic then
    .error .emptyTopic
  else .ok config

end Config

/-- What a watch is told of the configuration, the reference's `DetectionSettings::from_config`. -/
def Settings.ofConfig (config : Config) : Settings where
  alertTopic := config.stream.alertTopic
  pollTimeout := config.waits.pollTimeout
  flushTimeout := config.waits.flushTimeout

end IbanWatch
