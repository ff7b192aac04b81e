import IbanWatch.Keyed

/-!
# The surroundings of a program

The files below the directory in which a program runs, and the variables of its environment.  A path
is a row of names with slashes between them; the name `.` stays where it is, and `..` goes back up,
which is possible only from a directory that exists.

Names, values and contents are Unicode texts here.  A process can be given variables that are none,
and a directory such files; what is read of them is not told.

## Main definitions

* `Environment` — the variables.
* `File`, `Directory` — the files below a directory.
* `Directory.read?` — the content of the file that a path leads to.
-/

namespace IbanWatch

/-- The variables of the environment, each with its value.  They are the variables of a process: the
names and values are Unicode texts without a NUL, since a NUL ends an entry, and no name is empty or
has an equals sign.  Nothing here asks for this, and nothing that is set breaks it: see
`EnvFile.isStorable`. -/
abbrev Environment := Keyed String

/-- A file of settings with the names that lead to it. -/
structure File where
  /-- The names on the way, and its own. -/
  names : List String
  /-- What is in it: a Unicode text, in which a NUL is a character like any other. -/
  content : String
  deriving DecidableEq, Repr

/-- The files below a directory. -/
abbrev Directory := List File

namespace Directory

/-- The parts of a path between its slashes. -/
def partsOf (path : String) : List String :=
  let (part, rest) := path.toList.foldr (fun c (part, rest) =>
    if c = '/' then ([], String.ofList part :: rest) else (c :: part, rest)) ([], [])
  String.ofList part :: rest

/-- The names in a path, without those that stay where they are. -/
def namesOf (path : String) : List String :=
  (partsOf path).filter fun name => name ≠ "" && name ≠ "."

/-- The path with these names. -/
def pathOf (names : List String) : String := "/".intercalate names

/-- Whether these names lead to a directory. -/
def isDirectory (d : Directory) (names : List String) : Bool :=
  names.isEmpty || d.any fun file =>
    names.length < file.names.length && names.isPrefixOf file.names

/-- The names that are left when those that go back up are followed. -/
def follow? (d : Directory) (place : List String) : List String → Option (List String)
  | [] => some place
  | name :: rest =>
    if !d.isDirectory place then none
    else if name = ".." then
      if place.isEmpty then none else follow? d place.dropLast rest
    else follow? d (place ++ [name]) rest

/-- The content of the file to which the names lead. -/
def read? (d : Directory) (names : List String) : Option String := do
  let place ← d.follow? [] names
  let file ← d.find? (·.names == place)
  return file.content

example : namesOf "config//./a.b" = ["config", "a.b"] := by decide +kernel

end Directory

end IbanWatch
