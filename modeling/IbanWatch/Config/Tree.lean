import IbanWatch.Decimal.Layout
import IbanWatch.Keyed
import IbanWatch.Text.Lowercase
import IbanWatch.Text.Quoted
import IbanWatch.Toml.Value

/-!
# Settings as a tree

All settings together form a tree of tables, lists and atoms, in which keys are in lower case.
Layers of settings are laid over one another: tables are merged key by key, and everything else is
replaced.  An atom or a list remembers where it was written; a merged table does not, since several
layers may have had a part in it.

## Main definitions

* `Origin`, `Atom`, `Tree` — where a value was written, a value without parts, a tree.
* `Tree.ofValue` — the tree of a value in a document.
* `Tree.overlay` — a value laid over what a key has so far.

## References

The values of `config`, the library that the reference's `AppConfig::load` builds on.
-/

namespace IbanWatch.Config

open Text

/-- Where a value was written. -/
inductive Origin where
  /-- In a file. -/
  | file (path : String)
  /-- In a variable of the environment. -/
  | environment
  deriving DecidableEq, Repr

/-- The place in words. -/
def Origin.text : Origin → String
  | .file path => path
  | .environment => "the environment"

/-- A value without parts. -/
inductive Atom where
  /-- A string. -/
  | text (value : String)
  /-- An integer of 64 bits with its sign. -/
  | integer (value : Int)
  /-- A floating-point number. -/
  | real (value : Float)
  /-- A truth value. -/
  | truth (value : Bool)
  deriving Repr

/-- Settings. -/
inductive Tree where
  /-- A place in a list to which nothing was written. -/
  | nothing
  /-- A value without parts. -/
  | atom (value : Atom) (origin : Option Origin)
  /-- A list. -/
  | list (items : List Tree) (origin : Option Origin)
  /-- A table. -/
  | table (members : List (String × Tree)) (origin : Option Origin)

namespace Tree

/-- A table without members that nobody wrote. -/
def emptyTable : Tree := .table [] none

/-- The members of a table; anything else has none. -/
def members : Tree → Keyed Tree
  | .table members _ => members
  | _ => []

/-- The items of a list; anything else has none. -/
def items : Tree → List Tree
  | .list items _ => items
  | _ => []

/-- Where the value was written, if that is known. -/
def origin : Tree → Option Origin
  | .nothing => none
  | .atom _ origin | .list _ origin | .table _ origin => origin

/-! ### Trees of documents -/

/-- The atom of a scalar.  A moment is taken for its text. -/
def atomOf : Toml.Scalar → Atom
  | .text s | .moment s => .text s
  | .integer n => .integer n
  | .real x => .real x
  | .truth b => .truth b

mutual

/-- The tree of a value that was written at a place. -/
def ofValue (origin : Option Origin) : Toml.Value → Tree
  | .scalar s => .atom (atomOf s) origin
  | .list items => .list (ofValues origin items) origin
  | .table members => .table (ofMembers origin members) origin

/-- The trees of several values. -/
def ofValues (origin : Option Origin) : List Toml.Value → List Tree
  | [] => []
  | value :: rest => ofValue origin value :: ofValues origin rest

/-- The trees of the members of a table. -/
def ofMembers (origin : Option Origin) : List (String × Toml.Value) → List (String × Tree)
  | [] => []
  | (key, value) :: rest => (key, ofValue origin value) :: ofMembers origin rest

end

/-! ### Layers -/

/-- The members of a table with one replaced; anything else than a table gives way to a new one. -/
def setMember (target : Tree) (key : String) (value : Tree) : Tree :=
  match target with
  | .table members origin => .table (Keyed.set key value members) origin
  | _ => .table [(key, value)] none

mutual

/-- What a key has after a value was laid over what it had before. -/
def overlay (existing : Option Tree) : Tree → Tree
  | .table members _ => overlayMembers (existing.getD emptyTable) members
  | value => value

/-- A table after members were laid over its own, one after another. -/
def overlayMembers (target : Tree) : List (String × Tree) → Tree
  | [] => target
  | (key, value) :: rest =>
    let key := lower key
    overlayMembers (target.setMember key (overlay (target.members.find? key) value)) rest

end

/-- A table after a value was laid over one of its members. -/
def overlayMember (target : Tree) (key : String) (value : Tree) : Tree :=
  let key := lower key
  target.setMember key (overlay (target.members.find? key) value)

end Tree

end IbanWatch.Config
