import IbanWatch.Config.Layers

/-!
# From settings to a configuration

Every field of the configuration has a type, and settings are converted generously: a number or a
truth value may stand for a string, a word for a truth value, a numeral in a string for a number.  A
section may also be a list, whose items are then its fields in the order in which they are declared.

## Main definitions

* `asText`, `asTruth`, `asCount` — the conversions.
* `Section` — a section as it was given.
* `load` — the configuration that the surroundings give.

## References

The reference's `AppConfig::load`; its specification, 10.4.  Values are converted as by `config`,
the library that the reference loads its layers with.
-/

namespace IbanWatch.Config

open Text

/-! ### Conversions -/

/-- A value that cannot be converted, with what was expected. -/
structure Misfit where
  /-- What was found. -/
  found : Found
  /-- What was expected. -/
  expected : String
  deriving Repr

/-- The value as a string. -/
def asText : Tree → Except Misfit String
  | .atom (.text s) _ => .ok s
  | .atom (.integer n) _ => .ok (toString n)
  | .atom (.real x) _ => .ok (plainText x)
  | .atom (.truth b) _ => .ok (if b then "true" else "false")
  | tree => .error ⟨tree.found, "a string"⟩

/-- The truth value that a word stands for. -/
def truthOf? (word : String) : Option Bool :=
  if word ∈ ["true", "on", "yes"] then some true
  else if word ∈ ["false", "off", "no"] then some false
  else none

/-- The value as a truth value. -/
def asTruth : Tree → Except Misfit Bool
  | .atom (.truth b) _ => .ok b
  | .atom (.integer n) _ => .ok (n ≠ 0)
  | .atom (.real x) _ => .ok (x != 0)
  | .atom (.text s) _ =>
    let word := lower s
    if word = "1" then .ok true
    else if word = "0" then .ok false
    else match truthOf? word with
      | some b => .ok b
      | none => .error ⟨.text word, "a boolean"⟩
  | tree => .error ⟨tree.found, "a boolean"⟩

/-- The count that a numeral spells, if it fits 64 bits.  A plus sign may stand before it. -/
def countOf? (s : String) : Option UInt64 :=
  let digits := match s.toList with
    | '+' :: rest => rest
    | letters => letters
  if digits.isEmpty || !digits.all Char.isDigit then none
  else
    let n := numeralValue 10 digits
    if n < UInt64.size then some (UInt64.ofNat n) else none

/-- The value as a count.  A fraction is rounded, and from the middle on away from zero; what is out
of reach becomes the nearest count, and what is no number zero. -/
def asCount : Tree → Except Misfit UInt64
  | .atom (.integer n) _ =>
    if 0 ≤ n then .ok (UInt64.ofNat n.toNat)
    else .error ⟨.sizedInteger n, "an unsigned 64 bit or less integer"⟩
  | .atom (.real x) _ => .ok x.round.toUInt64
  | .atom (.truth b) _ => .ok (if b then 1 else 0)
  | .atom (.text s) _ =>
    match truthOf? (lower s), countOf? s with
    | some b, _ => .ok (if b then 1 else 0)
    | none, some n => .ok n
    | none, none => .error ⟨.text s, "an integer"⟩
  | tree => .error ⟨tree.found, "an integer"⟩

/-! ### Sections -/

/-- A section as it was given. -/
inductive Section where
  /-- By the names of its fields. -/
  | named (members : Keyed Tree)
  /-- By their order. -/
  | ordered (items : List Tree)

namespace Section

/-- The section that a value gives; without a value all fields are missing. -/
def of (expected : String) : Option Tree → Except Fault Section
  | none => .ok (.named [])
  | some (.table members _) => .ok (.named members)
  | some (.list items _) => .ok (.ordered items)
  | some tree => .error (.mistyped tree.found expected none none)

/-- The value of a field, given by its place and its name. -/
def value? (s : Section) (index : Nat) (field : String) : Option Tree :=
  match s with
  | .named members => members.find? field
  | .ordered items => items[index]?

/-- How a message names a field. -/
def fieldKey (s : Section) (title : String) (index : Nat) (field : String) : String :=
  match s with
  | .named _ => s!"{title}.{field}"
  | .ordered _ => s!"{title}[{index}]"

/-- The converted value of a field, or its default if it is missing. -/
def read {α : Type} (s : Section) (convert : Tree → Except Misfit α) (title : String) (index : Nat)
    (field : String) (absent : α) : Except Fault α :=
  match s.value? index field with
  | none => .ok absent
  | some tree =>
    match convert tree with
    | .ok value => .ok value
    | .error misfit =>
      .error (.mistyped misfit.found misfit.expected (some (s.fieldKey title index field))
        tree.origin)

end Section

/-- The section about the stream, read into the reference's `KafkaConfig`. -/
def readStream (tree : Option Tree) : Except Fault StreamConfig := do
  let s ← Section.of "struct KafkaConfig" tree
  let absent : StreamConfig := {}
  let title := "kafka"
  let brokers ← s.read asText title 0 "brokers" absent.brokers
  let groupId ← s.read asText title 1 "group_id" absent.groupId
  let topic ← s.read asText title 2 "topic" absent.topic
  let alertTopic ← s.read asText title 3 "alert_topic" absent.alertTopic
  let autoOffsetReset ← s.read asText title 4 "auto_offset_reset" absent.autoOffsetReset
  let enablePartitionEof ← s.read asTruth title 5 "enable_partition_eof" absent.enablePartitionEof
  let sessionTimeout ← s.read asCount title 6 "session_timeout_ms" absent.sessionTimeout
  return ⟨brokers, groupId, topic, alertTopic, autoOffsetReset, enablePartitionEof, sessionTimeout⟩

/-- The section about the waiting times, read into the reference's `DetectionConfig`. -/
def readWaits (tree : Option Tree) : Except Fault WaitConfig := do
  let s ← Section.of "struct DetectionConfig" tree
  let absent : WaitConfig := {}
  let title := "detection"
  let pollTimeout ← s.read asCount title 0 "poll_timeout_ms" absent.pollTimeout
  let flushTimeout ← s.read asCount title 1 "flush_timeout_ms" absent.flushTimeout
  return ⟨pollTimeout, flushTimeout⟩

/-! ### The configuration -/

/-- The configuration in a tree of settings, valid or not. -/
def ofTree (tree : Tree) : Except Fault Config := do
  let stream ← readStream (tree.members.find? "kafka")
  let waits ← readWaits (tree.members.find? "detection")
  return ⟨stream, waits⟩

/-- The configuration that the surroundings give, if a watch may start with it; the reference's
`AppConfig::load`. -/
def load (d : Directory) (env : Environment) : Except Fault Config := do
  let tree ← collect d env
  let config ← ofTree tree
  config.validate

end IbanWatch.Config
