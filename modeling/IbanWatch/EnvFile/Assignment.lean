import IbanWatch.Config.Surroundings
import IbanWatch.Ending
import IbanWatch.EnvFile.Lines
import IbanWatch.EnvFile.Value

/-!
# Variables from a file

Each line of a file of variables sets one, unless it is blank or a comment.  A variable that is set
already keeps its value.  Reading stops at the first bad line, and what was set before it stays set.
A value that no variable can have is not a bad line: to set it unwinds the program.

## Main definitions

* `Reading`, `readLine` — what a line says.
* `setIfAbsent` — one more variable.
* `reference` — the value that a reference to a variable has.
* `extend` — the environment with the variables of a file.

## References

The entry point `dotenv` of `dotenvy`, which the reference's `bootstrap::run` calls first, and of
whose answer it takes no notice; its specification, 10.4.
-/

namespace IbanWatch.EnvFile

open Text

/-- What a line says. -/
inductive Reading where
  /-- It is no line of such a file. -/
  | bad
  /-- Nothing. -/
  | nothing
  /-- The variable has this value. -/
  | assignment (name value : String)
  deriving DecidableEq, Repr

/-- Whether the character may begin a name. -/
def beginsName (c : Char) : Bool := c.isAlpha || c == '_'

/-- Whether the character may stand in a name. -/
def isNameChar (c : Char) : Bool := c.isAlphanum || c == '_' || c == '.'

/-- The name at the head of a text, and the text from the first character behind it and the blanks
that follow. -/
def readName? (text : List Char) : Option (List Char × List Char) :=
  match text with
  | [] => none
  | c :: _ =>
    if beginsName c then
      some (text.takeWhile isNameChar, trimBlankStart (text.dropWhile isNameChar))
    else none

/-- The word that may stand before a name. -/
def exportWord : List Char := ['e', 'x', 'p', 'o', 'r', 't']

/-- The name that a line sets, and what is behind its equals sign. -/
def readTarget? (text : List Char) : Option (List Char × List Char) :=
  match readName? text with
  | none => none
  | some (name, '=' :: rest) => some (name, rest)
  | some (name, rest) =>
    if name = exportWord then
      match readName? rest with
      | some (name, '=' :: rest) => some (name, rest)
      | _ => none
    else none

/-- Whether nothing is left of a line but a comment. -/
def isOver (text : List Char) : Bool :=
  match text with
  | [] => true
  | c :: _ => c == '#'

/-- What a line says, where `lookup` gives the values of other variables. -/
def readLine (lookup : String → String) (line : List Char) : Reading :=
  let text := trimBlankStart (trimBlankEnd line)
  if isOver text then .nothing
  else match readTarget? text with
    | none => .bad
    | some (name, rest) =>
      let name := String.ofList name
      let rest := trimBlankStart rest
      if isOver rest then .assignment name ""
      else match readValue lookup rest with
        | none => .bad
        | some value => .assignment name value

/-- Whether the environment has room for a value.  A NUL ends an entry, so none may be in one. -/
def isStorable (value : String) : Bool := !hasNul value

/-- The environment with a variable, unless that is set already.  A value for which there is no room
is not refused but unwinds the program. -/
def setIfAbsent (env : Environment) (name value : String) : Ending Environment :=
  match env.find? name with
  | some _ => .returned env
  | none => if isStorable value then .returned (env.set name value) else .unwound

/-- The value that a reference to a variable has, empty if there is none.  The environment is a row
of entries with an equals sign between name and value, and the entry that begins with the name of
the reference and an equals sign is taken.  So a name with such a sign of its own reaches into the
value of a variable. -/
def reference (env : Environment) (name : String) : String :=
  let start := name.toList ++ ['=']
  let found := env.findSome? fun (key, value) =>
    let entry := key.toList ++ '=' :: value.toList
    if start.isPrefixOf entry then some (String.ofList (entry.drop start.length)) else none
  if name = "" then "" else found.getD ""

example : reference [("H", "x=y=z")] "H=x" = "y=z" := by decide +kernel

/-- The environment with the variables of the lines up to the first bad one. -/
def extendBy (env : Environment) : List (Option (List Char)) → Ending Environment
  | [] | none :: _ => .returned env
  | some line :: rest =>
    match readLine (reference env) line with
    | .bad => .returned env
    | .nothing => extendBy env rest
    | .assignment name value => (setIfAbsent env name value).andThen (extendBy · rest)

/-- The environment with the variables of a file. -/
def extend (env : Environment) (content : Bytes) : Ending Environment :=
  extendBy env (lines content)

end IbanWatch.EnvFile
