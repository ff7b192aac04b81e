import IbanWatch.Text.Utf8

/-!
# Where and why a text is not JSON

A reader that meets a fault knows how many bytes it has not read yet.  Some faults are reported
behind the last byte read and some on the byte that comes next, which is then counted as read.
The line and the column follow from the bytes in front of that place.

## Main definitions

* `Cause`, `Cause.message` — the kinds of fault and their wording.
* `Fault` — a cause with the number of bytes behind the place it is reported at.
* `Position`, `Fault.position` — that place as a line and a column of a text.
-/

namespace IbanWatch.Json

open Text

/-- The ways in which a text can fail to be JSON. -/
inductive Cause where
  /-- The text ends inside a list. -/
  | endInList
  /-- The text ends inside an object. -/
  | endInObject
  /-- The text ends inside a string. -/
  | endInString
  /-- The text ends where a value is due or unfinished. -/
  | endInValue
  /-- A key is not followed by a colon. -/
  | colonExpected
  /-- A list item is followed by neither a comma nor the end of the list. -/
  | listGoesOn
  /-- A member is followed by neither a comma nor the end of the object. -/
  | objectGoesOn
  /-- A word other than `null`, `true` and `false`. -/
  | unknownWord
  /-- No value begins here. -/
  | valueExpected
  /-- A backslash before something that it does not escape. -/
  | badEscape
  /-- A number that breaks the rules for numbers. -/
  | badNumber
  /-- A number too large for a double. -/
  | numberOutOfRange
  /-- A string that is not valid UTF-8. -/
  | badCodePoint
  /-- A control character inside a string. -/
  | controlCharacter
  /-- A member that does not begin with a string. -/
  | keyNotString
  /-- Half of a surrogate pair. -/
  | loneSurrogate
  /-- The second half of a surrogate pair is no escape. -/
  | pairCutShort
  /-- A comma before the end of a list or object. -/
  | trailingComma
  /-- Something follows the value. -/
  | trailingCharacters
  /-- Lists and objects are nested too deep. -/
  | tooDeep
  deriving DecidableEq, Repr

/-- The wording of a cause. -/
def Cause.message : Cause → String
  | .endInList => "EOF while parsing a list"
  | .endInObject => "EOF while parsing an object"
  | .endInString => "EOF while parsing a string"
  | .endInValue => "EOF while parsing a value"
  | .colonExpected => "expected `:`"
  | .listGoesOn => "expected `,` or `]`"
  | .objectGoesOn => "expected `,` or `\x7d`"
  | .unknownWord => "expected ident"
  | .valueExpected => "expected value"
  | .badEscape => "invalid escape"
  | .badNumber => "invalid number"
  | .numberOutOfRange => "number out of range"
  | .badCodePoint => "invalid unicode code point"
  | .controlCharacter =>
      "control character (\\u0000-\\u001F) found while parsing a string"
  | .keyNotString => "key must be a string"
  | .loneSurrogate => "lone leading surrogate in hex escape"
  | .pairCutShort => "unexpected end of hex escape"
  | .trailingComma => "trailing comma"
  | .trailingCharacters => "trailing characters"
  | .tooDeep => "recursion limit exceeded"

/-- A fault, told by its cause and by how many bytes lie behind the place it is reported at. -/
structure Fault where
  /-- What is wrong. -/
  cause : Cause
  /-- The number of bytes behind the place. -/
  unread : Nat
  deriving DecidableEq, Repr

/-- The fault behind the last byte read, when `rest` is what is not read yet. -/
def Fault.before (cause : Cause) (rest : Bytes) : Fault := ⟨cause, rest.length⟩

/-- The fault on the next byte of `rest`, or at the end of the text if there is none. -/
def Fault.on (cause : Cause) (rest : Bytes) : Fault := ⟨cause, rest.length - 1⟩

/-- A place in a text: the line counted from one, and the number of bytes before the place on it. -/
structure Position where
  /-- The line, counted from one. -/
  line : Nat
  /-- The number of bytes between the start of the line and the place. -/
  column : Nat
  deriving DecidableEq, Repr

/-- The place one byte further on. -/
def Position.after (p : Position) (byte : UInt8) : Position :=
  if byte = 10 then ⟨p.line + 1, 0⟩ else ⟨p.line, p.column + 1⟩

/-- The place at the end of the bytes. -/
def Position.atEnd (bytes : Bytes) : Position := bytes.foldl Position.after ⟨1, 0⟩

/-- The place of the fault in the text that was read. -/
def Fault.position (text : Bytes) (fault : Fault) : Position :=
  .atEnd (text.take (text.length - fault.unread))

end IbanWatch.Json
