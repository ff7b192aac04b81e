import IbanWatch.Text.Blank
import IbanWatch.Text.Utf8

/-!
# Lines of a file of variables

A file of variables is a row of bytes, cut into lines before it is read as text.  A line goes on
over a line end that stands between quotes; a backslash outside quotes does not carry it on.
Outside quotes a `#` behind a single blank begins a comment, with which the line ends; a line that
begins with `#` is all comment.  Bytes that are no text end the file like a line that never ends.

## Main definitions

* `Quoting`, `Quoting.next` — where a character stands, and where the next one does.
* `rawLines` — the lines as they are in the file.
* `lines` — the lines put together, without the byte order mark.

## References

The lines of `dotenvy`, by which the reference's `bootstrap::run` reads the file.
-/

namespace IbanWatch.EnvFile

open Text

/-- Where a character stands. -/
inductive Quoting where
  /-- Outside quotes. -/
  | outside
  /-- Outside quotes, right behind a blank. -/
  | blank
  /-- Outside quotes, right behind a backslash. -/
  | escape
  /-- Between double quotes. -/
  | weak
  /-- Between double quotes, right behind a backslash. -/
  | weakEscape
  /-- Between single quotes. -/
  | strong
  /-- Between single quotes, right behind a backslash. -/
  | strongEscape
  deriving DecidableEq, Repr

/-- Where the next character stands, when this one stands outside quotes. -/
def afterOutside (c : Char) : Quoting :=
  if isBlank c && c != '\n' && c != '\r' then .blank
  else if c = '\\' then .escape
  else if c = '"' then .weak
  else if c = '\'' then .strong
  else .outside

/-- Where the next character stands.  Behind a blank, another one counts as any other character. -/
def Quoting.next (c : Char) : Quoting → Quoting
  | .outside => afterOutside c
  | .blank => if isBlank c then .outside else afterOutside c
  | .escape => .outside
  | .weak => if c = '\\' then .weakEscape else if c = '"' then .outside else .weak
  | .weakEscape => .weak
  | .strong => if c = '\\' then .strongEscape else if c = '\'' then .outside else .strong
  | .strongEscape => .strong

/-- How a line of the file ends. -/
inductive LineEnd where
  /-- The next character would stand here. -/
  | at (q : Quoting)
  /-- A comment begins, and these are the characters before it. -/
  | comment (kept : List Char)
  deriving DecidableEq, Repr

/-- Goes through a line of the file, whose first character stands at `q`.  The characters already
passed are given in reverse. -/
def scan (q : Quoting) (passed : List Char) : List Char → LineEnd
  | [] => .at q
  | c :: rest =>
    if q = .blank ∧ c = '#' then .comment passed.reverse
    else scan (q.next c) (c :: passed) rest

/-- The lines as they are in the file, each with its line feed. -/
def rawLines (content : Bytes) : List Bytes :=
  content.foldr (fun b lines =>
    if b = 0x0A then [b] :: lines
    else match lines with
      | [] => [[b]]
      | line :: rest => (b :: line) :: rest) []

/-- The line without its line feed and a carriage return before that. -/
def dropLineEnd (line : List Char) : List Char :=
  match line.reverse with
  | '\n' :: '\r' :: rest => rest.reverse
  | '\n' :: rest => rest.reverse
  | _ => line

/-- Whether the line is all comment. -/
def isComment (line : List Char) : Bool := (trimBlankStart line).head? == some '#'

/-- The lines, put together from those of the file; `pending` holds the beginning of the current
one, and `q` is where its next character stands.  A line that never ends is given as `none`, and so
is one with bytes that are no text. -/
def joinLines (pending : List Char) (q : Quoting) : List Bytes → List (Option (List Char))
  | [] => if q = .outside then [] else [none]
  | bytes :: rest =>
    match ofUtf8? bytes with
    | none => [none]
    | some text =>
      let raw := text.toList
      let line := pending ++ raw
      if isComment line then some [] :: joinLines [] .outside rest
      else match scan q [] raw with
        | .comment kept => some (pending ++ kept) :: joinLines [] .outside rest
        | .at .outside => some (dropLineEnd line) :: joinLines [] .outside rest
        | .at q => joinLines line q rest

/-- The bytes without the byte order mark that may open them. -/
def dropMark : Bytes → Bytes
  | 0xEF :: 0xBB :: 0xBF :: rest => rest
  | bytes => bytes

/-- The lines of a file. -/
def lines (content : Bytes) : List (Option (List Char)) :=
  joinLines [] .outside (rawLines (dropMark content))

example : lines (utf8 "A='x\ny' # c\nB\\\nC")
    = [some "A='x\ny' ".toList, some ['B', '\\'], some ['C']] := by decide +kernel

end IbanWatch.EnvFile
