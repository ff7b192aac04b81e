import IbanWatch.Config.Basic
import IbanWatch.Config.Path
import IbanWatch.Config.Surroundings
import IbanWatch.Toml.Lines

/-!
# Layers of settings

Settings come in four layers, each laid over those before it: a file with defaults, a file for the
place where the program runs, variables of the environment, and the one variable by which brokers
are usually given.  Either file may be missing.

## Main definitions

* `defaultFile?`, `placeFile?` — the two files, if they are there.
* `variableSettings` — the settings in the environment.
* `collect` — the tree of all settings.

## References

The layers that the reference's `AppConfig::load` hands to `config`, and its `BROKER_ENV_VAR`; its
specification, 10.4.
-/

namespace IbanWatch.Config

open Text

/-! ### Files -/

/-- The variable that names the place where the program runs. -/
def placeVariable : String := "APP_ENV"

/-- The place where the program runs. -/
def place (env : Environment) : String := (env.find? placeVariable).getD "local"

/-- Whether a path ends in a name, and not in a slash or in a step. -/
def endsInName (path : String) : Bool :=
  match (Directory.partsOf path).getLast? with
  | none => false
  | some last => last ≠ "" && last ≠ "." && last ≠ ".."

/-- The names of a path with the extension of a document added to the last one, unless that goes
back up. -/
def documentNames? (path : String) : Option (List String) := do
  let names := Directory.namesOf path
  let last ← names.getLast?
  if last = ".." then none else some (names.dropLast ++ [last ++ ".toml"])

/-- The path and the content of the document that is found by adding its extension. -/
def document? (d : Directory) (path : String) : Option (String × String) := do
  let names ← documentNames? path
  let content ← d.read? names
  return (Directory.pathOf names, content)

/-- The path and the content of the file of exactly this path. -/
def exactFile? (d : Directory) (path : String) : Option (String × String) := do
  if !endsInName path then none
  let names := Directory.namesOf path
  let content ← d.read? names
  return (Directory.pathOf names, content)

/-- The file with defaults.  Its kind is told by its extension, so a file without one counts as
none, even if there is another with the extension. -/
def defaultFile? (d : Directory) : Option (String × String) :=
  match exactFile? d "config/default" with
  | some _ => none
  | none => document? d "config/default"

/-- The file for the place where the program runs: of exactly its name, or with the extension
added. -/
def placeFile? (d : Directory) (env : Environment) : Option (String × String) :=
  let path := "config/" ++ place env
  (exactFile? d path).orElse fun _ => document? d path

/-- The members of a file, or nothing if there is no file. -/
def fileMembers : Option (String × String) → Except Fault (Keyed Tree)
  | none => .ok []
  | some (path, content) =>
    match (Toml.read? content).map (Tree.ofValue (some (.file path))) with
    | none => .error (.notDocument path)
    | some (.table members _) => .ok members
    | some tree => .error (.notTable path tree.found)

/-! ### Variables -/

/-- The beginning of the variables that hold settings. -/
def variableStart : List Char := ['a', 'p', 'p', '_', '_']

/-- The text with a point in place of every two underscores. -/
def pointed : List Char → List Char
  | '_' :: '_' :: rest => '.' :: pointed rest
  | c :: rest => c :: pointed rest
  | [] => []

/-- The key that a variable stands for, if it holds a setting. -/
def variableKey? (name : String) : Option String :=
  let letters := (lower name).toList
  if variableStart.isPrefixOf letters then
    some (String.ofList (pointed (letters.drop variableStart.length)))
  else none

/-- The settings in the environment, each a string. -/
def variableSettings (env : Environment) : Keyed Tree :=
  env.filterMap fun (name, value) =>
    (variableKey? name).map fun key => (key, .atom (.text value) (some .environment))

/-- The variable by which brokers are usually given. -/
def brokerVariable : String := "KAFKA_BOOTSTRAP_SERVERS"

/-- The path of the brokers in the settings. -/
def brokerPath : Path := [.member "kafka", .member "brokers"]

/-! ### All layers -/

/-- A tree with a layer laid over it, in which every key is a path.  It is read in lower case, since
a character of no path may have a lower case that may stand in one. -/
def addLayer (tree : Tree) (layer : Keyed Tree) : Tree :=
  layer.foldl (fun tree (key, value) => Tree.write value (Path.ofKey (lower key)) tree) tree

/-- All settings together. -/
def collect (d : Directory) (env : Environment) : Except Fault Tree := do
  let defaults ← fileMembers (defaultFile? d)
  let placed ← fileMembers (placeFile? d env)
  let tree := [defaults, placed, variableSettings env].foldl addLayer Tree.emptyTable
  match env.find? brokerVariable with
  | none => return tree
  | some brokers => return Tree.write (.atom (.text brokers) none) brokerPath tree

end IbanWatch.Config
