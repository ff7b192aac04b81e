import IbanWatch.Toml.Value

/-!
# Reading a document

A document is a row of lines: headers of tables, keys with their values, and lines with nothing but
space and comments.  A value may go on over several lines where lists and strings allow it.

## Main definitions

* `value` — a value within a number of levels.
* `Line` — what a line says.
* `read?` — the value of the document that a text is.

## References

The documents of `toml`, by which `config` reads the files of the reference's `AppConfig::load`.
-/

namespace IbanWatch.Toml

open Text Reader

/-! ### Values -/

/-- The items of a list, of which the opening bracket was just read. -/
def listItems (item : Reader Node) : Reader (List Node) := do
  let items ← optionally (separated (char ',') (gaps *> item <* gaps))
  let _ ← optionally (if items.isSome then char ',' else failure)
  gaps
  char ']'
  return items.getD []

/-- A key path, an equals sign and a value. -/
def assignment (item : Reader Node) : Reader (List String × Node) := do
  let path ← keyPath
  char '='
  blanks
  let found ← item
  return (path, found)

/-- Adds values one after another under their key paths. -/
def gather? (members : Members) : List (List String × Node) → Option Members
  | [] => some members
  | (path, found) :: rest =>
    match path.getLast? with
    | none => none
    | some key => (members.put? path.dropLast key found).bind fun members => gather? members rest

/-- The members of a table in braces, of which the opening one was just read. -/
def inlineMembers (item : Reader Node) : Reader Members := do
  let found ← optionally (separated (char ',') (assignment item <* blanks))
  blanks
  char '}'
  StateT.lift (gather? [] (found.getD []))

/-- A list, a table in braces or a scalar, whose parts are read by `item`. -/
def valueOf (item : Reader Node) : Reader Node :=
  (.list <$> (char '[' *> listItems item))
    <|> (.inline <$> (char '{' *> inlineMembers item))
    <|> .scalar <$> scalar

/-- A value in which lists and tables are nested within so many levels. -/
def value : (levels : Nat) → Reader Node
  | 0 => .scalar <$> scalar
  | levels + 1 => valueOf (value levels)

/-! ### Lines -/

/-- What a line says. -/
inductive Line where
  /-- Nothing. -/
  | blank
  /-- The header of a table. -/
  | header (path : List String)
  /-- The header of one more table in a row. -/
  | rowHeader (path : List String)
  /-- A key path and its value. -/
  | pair (path : List String) (found : Node)

/-- A line. -/
def line : Reader Line := do
  blanks
  let found ← (.rowHeader <$> (word ['[', '['] *> keyPath <* word [']', ']']))
    <|> (.header <$> (char '[' *> keyPath <* char ']'))
    <|> ((fun (path, found) => .pair path found) <$> assignment (value (depthLimit - 1)))
    <|> pure .blank
  lineRest
  return found

/-- All lines up to the end of the text. -/
def lines : Reader (List Line) := many line <* finish

/-! ### The document -/

/-- A document under construction. -/
structure Draft where
  /-- Its members so far. -/
  members : Members := []
  /-- The header that was opened last. -/
  header : List String := []

/-- Adds what a line says. -/
def Draft.add? (draft : Draft) : Line → Option Draft
  | .blank => some draft
  | .header path => do
    let members ← draft.members.open? path.dropLast (← path.getLast?)
    return ⟨members, path⟩
  | .rowHeader path => do
    let members ← draft.members.extend? path.dropLast (← path.getLast?)
    return ⟨members, path⟩
  | .pair path found => do
    let members ← draft.members.putUnder? draft.header path.dropLast (← path.getLast?) found
    return { draft with members }

/-- The text without the byte order mark that may open it. -/
def dropByteOrderMark : List Char → List Char
  | '\ufeff' :: rest => rest
  | text => text

/-- The value of the document, or `none` if the text is no document. -/
def read? (text : String) : Option Value := do
  let (found, _) ← lines (dropByteOrderMark text.toList)
  let draft ← found.foldlM Draft.add? {}
  Value.ofNode? (.table .defined draft.members)

end IbanWatch.Toml
