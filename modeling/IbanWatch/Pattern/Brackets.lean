import IbanWatch.Text.Numeral
import IbanWatch.Text.Reader

/-!
# Brackets and braces in patterns

In a pattern a set of characters stands in square brackets: single characters, ranges, and kinds of
characters by name.  Some characters are members only in certain places.  A closing bracket can be
the first member, and a hyphen the first, the last or the upper end of a range.  A character may
also be given by its name between two points; here every name is the character itself.

How often what comes before is repeated stands in braces, as one number or as two with a comma
between them, of which either may be missing.

## Main definitions

* `set` — reads a set of characters.
* `interval` — reads how often something is repeated.
-/

namespace IbanWatch.Pattern

open Text Reader

/-! ### Names -/

/-- The kinds of characters that have a name. -/
def kinds : List String :=
  ["alnum", "alpha", "blank", "cntrl", "digit", "graph", "lower", "print", "punct", "space",
   "upper", "xdigit"]

/-- Whether an inner bracket opens at the head of the text, with one of the marks that a name may
stand between. -/
def opensName : List Char → Bool
  | '[' :: mark :: _ => mark == '.' || mark == '=' || mark == ':'
  | _ => false

/-- What is before the next closing inner bracket with this mark. -/
def nameBefore (mark : Char) : Reader (List Char)
  | [] => none
  | c :: rest =>
    if c = mark ∧ rest.head? = some ']' then some ([], rest.drop 1)
    else (nameBefore mark rest).map fun (name, rest) => (c :: name, rest)

/-- A name in an inner bracket with this mark. -/
def named (mark : Char) : Reader (List Char) := word ['[', mark] *> nameBefore mark

/-- The one character of a name. -/
def soleChar : List Char → Reader Char
  | [c] => pure c
  | _ => failure

/-- A character by its name. -/
def charByName : Reader Char := named '.' >>= soleChar

/-- The characters that count as equal to one. -/
def likeness : Reader Unit := do
  let _ ← soleChar (← named '=')

/-- The characters of a kind. -/
def kind : Reader Unit := do
  let name ← named ':'
  if String.ofList name ∈ kinds then return () else failure

/-! ### Sets -/

/-- A character of a class that does not open an inner bracket. -/
def plainChar (accepted : Char → Bool) : Reader Char := fun s =>
  if opensName s then none else one accepted s

/-- A character that can be an end of a range: a character by its name, or one of a class. -/
def rangeEnd (accepted : Char → Bool) : Reader Char := charByName <|> plainChar accepted

/-- The lower end of a range, or a member by itself. -/
def lowerEnd (first : Bool) : Reader Char := rangeEnd fun c => first || (c != ']' && c != '-')

/-- A range, the ends of which must be in order. -/
def range (first : Bool) : Reader Unit := do
  let low ← lowerEnd first
  char '-'
  let high ← rangeEnd (· != ']')
  if low ≤ high then return () else failure

/-- A hyphen right before the end of the set. -/
def lastHyphen : Reader Unit
  | '-' :: ']' :: rest => some ((), ']' :: rest)
  | _ => none

/-- A member of a set, the first one or a later one. -/
def member (first : Bool) : Reader Unit :=
  range first <|> kind <|> likeness <|> (fun _ => ()) <$> lowerEnd first <|> lastHyphen

/-- A set of characters, or of all characters but those. -/
def set : Reader Unit := do
  char '['
  let _ ← optionally (char '^')
  member true
  let _ ← many (member false)
  char ']'

/-! ### Repetitions -/

/-- The largest number of repetitions that can be asked for. -/
def repetitionBound : Nat := 0x7FFF

/-- A comma in braces, with or without a backslash. -/
def comma : Reader Unit := char ',' <|> word ['\\', ',']

/-- A digit in braces.  Behind a backslash only the zero is one: the others name groups. -/
def digit : Reader Char := one Char.isDigit <|> (fun _ => '0') <$> word ['\\', '0']

/-- A number in braces. -/
def number : Reader Nat := do
  let first ← digit
  let more ← many digit
  return numeralValue 10 (first :: more)

/-- How often something is repeated: exactly so often, or within bounds. -/
def interval : Reader Unit := do
  char '\x7b'
  let low ← optionally number
  let separator ← optionally comma
  let high ← if separator.isSome then optionally number else pure low
  char '\x7d'
  let least := low.getD 0
  let most := high.getD least
  if (low.isSome ∨ separator.isSome) ∧ least ≤ most ∧ most ≤ repetitionBound then return ()
  else failure

end IbanWatch.Pattern
