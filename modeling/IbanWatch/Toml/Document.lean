import IbanWatch.Keyed
import IbanWatch.Toml.Scalar

/-!
# Documents

A document is a tree of tables.  A table comes into being in one of three ways, and that decides
what may still be added to it: under its own header, on the way to the header of another table, or
on the way to a key with points in it.  A header may define a table that was only passed on the way
to other headers, but no table twice.  Keys with points go on through tables they made themselves.

## Main definitions

* `Standing`, `Node`, `Members` — how a table came into being, a value, the members of a table.
* `Members.put?` — adds a value under a path of keys.
* `Members.open?`, `Members.extend?` — a table, or one more table of a row, under its header.
-/

namespace IbanWatch.Toml

/-- How a table came into being. -/
inductive Standing where
  /-- Under its own header. -/
  | defined
  /-- On the way to the header of another table. -/
  | passed
  /-- On the way to a key with points in it. -/
  | dotted
  deriving DecidableEq, Repr

/-- A value of a document. -/
inductive Node where
  /-- A value without parts. -/
  | scalar (value : Scalar)
  /-- A list in brackets. -/
  | list (items : List Node)
  /-- A table in braces, to which nothing can be added. -/
  | inline (members : List (String × Node))
  /-- A table with headers or keys of its own. -/
  | table (standing : Standing) (members : List (String × Node))
  /-- A row of tables under one header, the last one first. -/
  | row (reversed : List (List (String × Node)))

/-- The members of a table. -/
abbrev Members := Keyed Node

namespace Members

/-- Changes the table at the end of a path.  Tables that are missing on the way come into being
with the standing `made`; a row of tables is entered at its last one.  On the way to a key with
points, no table may be entered that has its own header. -/
def change? (made : Standing) (act : Standing → Members → Option Members) :
    (path : List String) → Standing → Members → Option Members
  | [], standing, members => act standing members
  | key :: path, _, members =>
    match members.find? key with
    | none => (change? made act path made []).map fun inner => members.set key (.table made inner)
    | some (.table standing inner) =>
      if made = .dotted ∧ standing = .defined then none
      else (change? made act path standing inner).map fun inner =>
        members.set key (.table standing inner)
    | some (.row (last :: before)) =>
      (change? made act path .defined last).map fun last => members.set key (.row (last :: before))
    | some _ => none

/-- Adds a value under a key that has none yet. -/
def add? (key : String) (value : Node) (members : Members) : Option Members :=
  match members.find? key with
  | none => some (members.set key value)
  | some _ => none

/-- Adds a value under a path of keys, the last of which is `key`.  Behind a point, it goes only
into a table that such keys have made. -/
def put? (path : List String) (key : String) (value : Node) (members : Members) : Option Members :=
  members.change? .dotted
    (fun standing inner =>
      if (standing == .dotted) == path.isEmpty then none else inner.add? key value)
    path .defined

/-- Opens the table with this header: a new one, or one that was only passed before, which then
moves behind all others. -/
def open? (path : List String) (key : String) (members : Members) : Option Members :=
  members.change? .passed
    (fun _ inner =>
      match inner.find? key with
      | none => some (inner.set key (.table .defined []))
      | some (.table .passed found) => some ((inner.erase key).set key (.table .defined found))
      | some _ => none)
    path .defined

/-- Opens one more table in the row with this header. -/
def extend? (path : List String) (key : String) (members : Members) : Option Members :=
  members.change? .passed
    (fun _ inner =>
      match inner.find? key with
      | none => some (inner.set key (.row [[]]))
      | some (.row reversed) => some (inner.set key (.row ([] :: reversed)))
      | some _ => none)
    path .defined

/-- Adds a value to the table under the header that was opened last, which is the whole document
before the first header. -/
def putUnder? (header path : List String) (key : String) (value : Node) (members : Members) :
    Option Members :=
  members.change? .passed (fun _ inner => inner.put? path key value) header .defined

end Members

end IbanWatch.Toml
