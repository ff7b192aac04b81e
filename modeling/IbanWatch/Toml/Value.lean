import IbanWatch.Toml.Document

/-!
# Values

What a document says, apart from the way in which it is written: scalars, lists and tables.  One key
is reserved.  A table that begins with it stands for the moment that is given under it by a string,
whatever else is in the table.

## Main definitions

* `Value` — a scalar, a list or a table.
* `Value.ofNode?` — the value that a node of a document stands for.

## References

The values of `toml`, and the key by which it hands a moment on to other libraries.
-/

namespace IbanWatch.Toml

/-- What a document, or a part of it, says. -/
inductive Value where
  /-- A value without parts. -/
  | scalar (value : Scalar)
  /-- A list. -/
  | list (items : List Value)
  /-- A table. -/
  | table (members : List (String × Value))

/-- The key that is reserved for moments. -/
def momentKey : String := "$__toml_private_datetime"

/-- Whether a table with these members stands for a moment. -/
def standsForMoment : Members → Bool
  | [] => false
  | (key, _) :: _ => key == momentKey

/-- The moment that a table with these members stands for. -/
def momentIn? : Members → Option Value
  | (_, .scalar (.text s)) :: _ => (momentOf? s).map fun found => .scalar (.moment found)
  | _ => none

namespace Value

mutual

/-- The value that a node stands for, or `none` if the reserved key is misused in it. -/
def ofNode? : Node → Option Value
  | .scalar s => some (.scalar s)
  | .list items => .list <$> ofNodes? items
  | .inline members =>
    if standsForMoment members then momentIn? members else .table <$> ofMembers? members
  | .table _ members =>
    if standsForMoment members then momentIn? members else .table <$> ofMembers? members
  | .row reversed => (fun items => .list items.reverse) <$> ofRow? reversed

/-- The values that several nodes stand for. -/
def ofNodes? : List Node → Option (List Value)
  | [] => some []
  | node :: rest => List.cons <$> ofNode? node <*> ofNodes? rest

/-- The members that the members of a table stand for. -/
def ofMembers? : List (String × Node) → Option (List (String × Value))
  | [] => some []
  | (key, node) :: rest =>
    (fun value more => (key, value) :: more) <$> ofNode? node <*> ofMembers? rest

/-- The values that several tables stand for. -/
def ofRow? : List (List (String × Node)) → Option (List Value)
  | [] => some []
  | members :: rest =>
    let first := if standsForMoment members then momentIn? members
      else .table <$> ofMembers? members
    List.cons <$> first <*> ofRow? rest

end

end Value

end IbanWatch.Toml
