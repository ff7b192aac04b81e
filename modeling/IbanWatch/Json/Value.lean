import IbanWatch.Decimal.Layout
import IbanWatch.Text.Quoted

/-!
# JSON values

A value keeps the members of an object in the order in which they stand in the text, repeated keys
included; where a key is looked up, its last member counts.

## Main definitions

* `Number` — an integer that fits 64 bits, signed or not, or a double.
* `Value` — the values.
* `Value.kind`, `Value.description` — what a value is called in messages.
* `lastMember?` — the value of a key.
-/

namespace IbanWatch.Json

/-- A number as it is kept. -/
inductive Number where
  /-- An integer from `-2 ^ 63` to `2 ^ 64 - 1`. -/
  | integer (value : Int)
  /-- Any other number, and negative zero. -/
  | real (value : Float)
  deriving Repr

/-- A value. -/
inductive Value where
  /-- The value `null`. -/
  | null
  /-- A truth value. -/
  | bool (value : Bool)
  /-- A number. -/
  | number (value : Number)
  /-- A string. -/
  | text (value : String)
  /-- A list. -/
  | list (items : List Value)
  /-- An object, its members in the order of the text. -/
  | object (members : List (String × Value))

/-- The kind of a value with its article. -/
def Value.kind : Value → String
  | .null => "null"
  | .bool _ => "a boolean"
  | .number _ => "a number"
  | .text _ => "a string"
  | .list _ => "an array"
  | .object _ => "an object"

/-- A value as a message about its type describes it. -/
def Value.description : Value → String
  | .null => "null"
  | .bool true => "boolean `true`"
  | .bool false => "boolean `false`"
  | .number (.integer n) => s!"integer `{n}`"
  | .number (.real x) => s!"floating point `{compactText x}`"
  | .text s => s!"string {Text.quoted s}"
  | .list _ => "sequence"
  | .object _ => "map"

/-- The value of the last member with the key. -/
def lastMember? (members : List (String × Value)) (key : String) : Option Value :=
  members.foldl (fun found m => if m.1 = key then some m.2 else found) none

end IbanWatch.Json
