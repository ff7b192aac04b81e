import IbanWatch.Text.Blank
import IbanWatch.Text.Numeral
import IbanWatch.Text.Reader

/-!
# Strings, keys and the space between them

A string stands between single or double quotes, or between three of them when it has several
lines.  Escapes are resolved between double quotes only.  In a string of several lines one or two
quotes may stand anywhere, also before the closing three; a line end right behind the opening three
does not count, and every other line end counts as a line feed.

## Main definitions

* `blanks`, `comment`, `lineEnd`, `gaps` — what may stand between the parts of a text.
* `text` — a string.
* `key`, `keyPath` — a key, and keys with points between them.
-/

namespace IbanWatch.Toml

open Text Reader

/-! ### Space and comments -/

/-- Whether the character may stand in a string or a comment as it is: a tab, or any character that
is no control character of ASCII. -/
def isPlain (c : Char) : Bool := c == '\t' || (' ' ≤ c && c != '\x7f')

/-- The spaces up to the next character of another kind. -/
def blanks : Reader Unit := (fun _ => ()) <$> taken isGap

/-- A line end, which counts as a line feed however it is written. -/
def newline : Reader (List Char) := (word ['\n'] <|> word ['\r', '\n']) *> pure ['\n']

/-- A comment up to the end of its line. -/
def comment : Reader Unit := char '#' *> (fun _ => ()) <$> taken isPlain

/-- A line end or the end of the text. -/
def lineEnd : Reader Unit := ((fun _ => ()) <$> newline) <|> finish

/-- All that may stand behind the last part of a line. -/
def lineRest : Reader Unit := do
  blanks
  let _ ← optionally comment
  lineEnd

/-- Spaces, line ends and comments in any number. -/
def gaps : Reader Unit :=
  (fun _ => ()) <$> many
    (((fun _ => ()) <$> run isGap) <|> ((fun _ => ()) <$> newline) <|> comment)

/-! ### Escapes -/

/-- Whether the character is a hexadecimal digit. -/
def isHexDigit (c : Char) : Bool :=
  ('0' ≤ c && c ≤ '9') || ('a' ≤ c && c ≤ 'f') || ('A' ≤ c && c ≤ 'F')

/-- The character with the code point that so many hexadecimal digits spell. -/
def codePoint (digits : Nat) : Reader (List Char) := do
  let found ← (List.replicate digits isHexDigit).mapM one
  let n := numeralValue 16 found
  if n.isValidChar then return [Char.ofNat n] else failure

/-- A backslash and what it escapes. -/
def escaped : Reader (List Char) := do
  char '\\'
  match ← one fun _ => true with
  | 'b' => return ['\x08']
  | 't' => return ['\t']
  | 'n' => return ['\n']
  | 'f' => return ['\x0c']
  | 'r' => return ['\r']
  | '"' => return ['"']
  | '\\' => return ['\\']
  | 'u' => codePoint 4
  | 'U' => codePoint 8
  | _ => failure

/-- A backslash that ends its line takes all space up to the next part of the string with it. -/
def escapedLineEnd : Reader (List Char) := do
  char '\\'
  blanks
  let _ ← newline
  let _ ← many (run isGap <|> newline)
  return []

/-! ### Strings -/

/-- A run of characters that stand for themselves between these quotes. -/
def plainRun (quote : Char) (escapes : Bool) : Reader (List Char) :=
  run fun c => isPlain c && c != quote && !(escapes && c == '\\')

/-- A piece of a string between double quotes. -/
def escapedPiece : Reader (List Char) := plainRun '"' true <|> escaped

/-- A string on one line. -/
def lineText (quote : Char) (piece : Reader (List Char)) : Reader String := do
  char quote
  let pieces ← many piece
  char quote
  return String.ofList pieces.flatten

/-- One quote or two inside a string of several lines. -/
def looseQuotes (quote : Char) : Reader (List Char) := do
  let quotes ← run (· == quote)
  if quotes.length < 3 then return quotes else failure

/-- Three quotes that close a string, with up to two before them that belong to it. -/
def closingQuotes (quote : Char) : Reader (List Char) := do
  let quotes ← run (· == quote)
  if 3 ≤ quotes.length ∧ quotes.length ≤ 5 then return quotes.drop 3 else failure

/-- A string that may have several lines. -/
def blockText (quote : Char) (piece : Reader (List Char)) : Reader String := do
  word [quote, quote, quote]
  let _ ← optionally newline
  let pieces ← many (piece <|> looseQuotes quote)
  let last ← closingQuotes quote
  return String.ofList (pieces.flatten ++ last)

/-- A string. -/
def text : Reader String :=
  blockText '"' (plainRun '"' true <|> escapedLineEnd <|> escaped <|> newline)
    <|> lineText '"' escapedPiece
    <|> blockText '\'' (plainRun '\'' false <|> newline)
    <|> lineText '\'' (plainRun '\'' false)

/-! ### Keys -/

/-- Whether the character may stand in a key without quotes. -/
def isBare (c : Char) : Bool :=
  ('a' ≤ c && c ≤ 'z') || ('A' ≤ c && c ≤ 'Z') || ('0' ≤ c && c ≤ '9') || c == '_' || c == '-'

/-- A key. -/
def key : Reader String :=
  (String.ofList <$> run isBare) <|> lineText '"' escapedPiece
    <|> lineText '\'' (plainRun '\'' false)

/-- How many levels of keys or values a text may not reach. -/
def depthLimit : Nat := 80

/-- Keys with points between them, and spaces around each. -/
def keyPath : Reader (List String) := do
  let keys ← separated (char '.') (blanks *> key <* blanks)
  if keys.length < depthLimit then return keys else failure

end IbanWatch.Toml
