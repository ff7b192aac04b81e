import IbanWatch.Text.Alphanumeric
import IbanWatch.Text.Blank

/-!
# Values of variables

A value is put together from characters that stand for themselves, quoted parts, escapes and
references to other variables.  Between single quotes everything stands for itself; references and
escapes work between double quotes as they do outside.  A reference is a dollar sign with a name
behind it, which may stand in braces; without them the name ends before the first character that is
neither letter nor digit, and that character stands for itself, whatever it is.

## Main definitions

* `Mode` — what the next character of a value belongs to.
* `readValue` — the value that a text spells.

## References

The values of `dotenvy`, by which the reference's `bootstrap::run` reads the file.
-/

namespace IbanWatch.EnvFile

open Text

/-- What the next character of a value belongs to. -/
inductive Mode where
  /-- The value itself, between double quotes or not. -/
  | plain (weak : Bool)
  /-- An escape, between double quotes or not. -/
  | escape (weak : Bool)
  /-- A part between single quotes. -/
  | strong
  /-- A reference without braces, with its name so far in reverse. -/
  | name (weak : Bool) (reversed : List Char)
  /-- A reference in braces, with its name so far in reverse. -/
  | braced (weak : Bool) (reversed : List Char)
  /-- What is behind the value. -/
  | behind
  deriving DecidableEq, Repr

/-- The character that a backslash and this one stand for. -/
def escaped? (c : Char) : Option Char :=
  if c = 'n' then some '\n'
  else if c ∈ ['\\', '\'', '"', '$', ' '] then some c
  else none

/-- What a value adds when its text ends here; quotes and braces have to be closed. -/
def finish (lookup : String → String) : Mode → Option (List Char)
  | .plain false | .escape false | .behind => some []
  | .name false reversed => some (lookup (String.ofList reversed.reverse)).toList
  | _ => none

/-- The mode behind a character that stands for nothing by itself. -/
def switch? (weak : Bool) (c : Char) : Option Mode :=
  if c = '$' then some (.name weak [])
  else if c = '\\' then some (.escape weak)
  else if c = '"' then some (.plain !weak)
  else if weak then none
  else if c = '\'' then some .strong
  else if isGap c then some .behind
  else none

/-- The value that the rest of a text spells. -/
def readRest (lookup : String → String) : Mode → List Char → Option (List Char)
  | mode, [] => finish lookup mode
  | .plain weak, c :: rest =>
    match switch? weak c with
    | some mode => readRest lookup mode rest
    | none => (c :: ·) <$> readRest lookup (.plain weak) rest
  | .escape weak, c :: rest =>
    match escaped? c with
    | some stands => (stands :: ·) <$> readRest lookup (.plain weak) rest
    | none => none
  | .strong, c :: rest =>
    if c = '\'' then readRest lookup (.plain false) rest
    else (c :: ·) <$> readRest lookup .strong rest
  | .name weak reversed, c :: rest =>
    if isAlphanumeric c then readRest lookup (.name weak (c :: reversed)) rest
    else if c = '\x7b' ∧ reversed = [] then readRest lookup (.braced weak []) rest
    else
      let value := (lookup (String.ofList reversed.reverse)).toList
      if c = '$' then (value ++ ·) <$> readRest lookup (.name weak []) rest
      else (value ++ c :: ·) <$> readRest lookup (.plain weak) rest
  | .braced weak reversed, c :: rest =>
    if c = '\x7d' then
      let value := (lookup (String.ofList reversed.reverse)).toList
      (value ++ ·) <$> readRest lookup (.plain weak) rest
    else readRest lookup (.braced weak (c :: reversed)) rest
  | .behind, c :: rest =>
    if isGap c then readRest lookup .behind rest
    else if c = '#' then some []
    else none

/-- The value that a text spells, where `lookup` gives the values of other variables. -/
def readValue (lookup : String → String) (text : List Char) : Option String :=
  String.ofList <$> readRest lookup (.plain false) text

end IbanWatch.EnvFile
