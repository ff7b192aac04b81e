import IbanWatch.Config.Tree
import IbanWatch.Text.Blank
import IbanWatch.Text.Numeral
import IbanWatch.Text.Reader

/-!
# Paths into the settings

A key at the top of a layer is a path: names with points before them, and numbers in brackets.  A
number counts the items of a list, from the end if it is negative.  A key that cannot be read as a
path is a name as it stands.

## Main definitions

* `Step`, `Path` — one step into a tree, and a row of them.
* `Path.ofKey` — the path that a key spells.
* `Tree.write` — a tree with a value laid over what is at the end of a path.

## References

The keys of a layer in `config`, the library that the reference's `AppConfig::load` builds on.
-/

namespace IbanWatch.Config

open Text Reader

/-- A step into a tree. -/
inductive Step where
  /-- To a member of a table. -/
  | member (key : String)
  /-- To an item of a list. -/
  | item (index : Int)
  deriving DecidableEq, Repr

/-- A way into a tree. -/
abbrev Path := List Step

namespace Path

/-! ### Reading a path -/

/-- Whether the character may stand in a name. -/
def isNameChar (c : Char) : Bool :=
  ('a' ≤ c && c ≤ 'z') || ('A' ≤ c && c ≤ 'Z') || ('0' ≤ c && c ≤ '9')
    || c == ' ' || c == '_' || c == '-'

/-- A name. -/
def name : Reader Step := (fun letters => .member (String.ofList letters)) <$> run isNameChar

/-- The position of an item, an integer of 64 bits. -/
def index : Reader Int := do
  let sign ← optionally (char '-')
  let n := numeralValue 10 (← run Char.isDigit)
  let bound := 0x8000000000000000
  match sign with
  | none => if n < bound then return n else failure
  | some _ => if n ≤ bound then return -n else failure

/-- A number in brackets. -/
def bracketed : Reader Step := do
  char '['
  let _ ← taken isGap
  let n ← index
  let _ ← taken isGap
  char ']'
  return .item n

/-- A whole path. -/
def reader : Reader Path := do
  let first ← name
  let more ← many (char '.' *> name <|> bracketed)
  finish
  return first :: more

/-- The path that a key spells. -/
def ofKey (key : String) : Path :=
  match reader key.toList with
  | some (path, _) => path
  | none => [.member key]

end Path

namespace Tree

/-! ### Writing at a path -/

/-- The place that an index means in a list of so many items, if it is not before the first. -/
def place? (length : Nat) (index : Int) : Option Nat :=
  if 0 ≤ index then some index.toNat
  else if index.natAbs ≤ length then some (length - index.natAbs)
  else none

/-- A list with one item changed.  It is made long enough first, and anything else than a list gives
way to a new one. -/
def changeItem (target : Tree) (index : Int) (change : Tree → Tree) : Tree :=
  let origin := match target with
    | .list _ origin => origin
    | _ => none
  match place? target.items.length index with
  | none => .list target.items origin
  | some n =>
    let items := target.items ++ List.replicate (n + 1 - target.items.length) .nothing
    .list (items.modify n change) origin

/-- The tree with a value laid over what is at the end of a path.  What is missing on the way comes
into being, and what cannot be entered gives way. -/
def write (value : Tree) : Path → Tree → Tree
  | [], _ => value
  | [.member key], target => target.overlayMember key value
  | .member key :: path, target =>
    let key := lower key
    target.setMember key (write value path ((target.members.find? key).getD .nothing))
  | .item index :: path, target => target.changeItem index (write value path)

end Tree

end IbanWatch.Config
