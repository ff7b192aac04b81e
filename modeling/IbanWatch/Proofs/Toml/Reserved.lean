import IbanWatch.Toml.Lines

/-!
# The reserved key

A document is read in two steps: its lines make up tables, and these stand for values.  In the
second step only one thing can go wrong.  A table that begins with the reserved key is taken for a
moment, so it is refused if there is none under that key, and it is no table in any case.  Where no
table begins with that key, every document says a table.

## Main definitions

* `document?` — the tables that the lines of a text make up.
* `Node.isFree`, `membersAreFree` — no table in it begins with the reserved key.

## Main results

* `read?_eq` — the two steps.
* `Value.exists_ofNode?` — what is free of the reserved key stands for a value.
* `read?_of_areFree` — **a document without the reserved key says a table.**
-/

namespace IbanWatch.Toml

/-- The tables that the lines of a text make up, or `none` if they make up no document. -/
def document? (text : String) : Option Members := do
  let (found, _) ← lines (dropByteOrderMark text.toList)
  let draft ← found.foldlM Draft.add? {}
  return draft.members

theorem read?_eq (text : String) :
    read? text = (document? text).bind fun members => Value.ofNode? (.table .defined members) := by
  rw [read?, document?]
  cases lines (dropByteOrderMark text.toList) with
  | none => rfl
  | some found =>
    show (found.1.foldlM Draft.add? {}).bind _ = ((found.1.foldlM Draft.add? {}).bind _).bind _
    cases found.1.foldlM Draft.add? {} <;> rfl

mutual

/-- No table in the value begins with the reserved key. -/
def Node.isFree : Node → Bool
  | .scalar _ => true
  | .list items => areFree items
  | .inline members => !standsForMoment members && membersAreFree members
  | .table _ members => !standsForMoment members && membersAreFree members
  | .row reversed => rowIsFree reversed

/-- No table in these values begins with the reserved key. -/
def areFree : List Node → Bool
  | [] => true
  | node :: rest => node.isFree && areFree rest

/-- No table in the values of these members begins with the reserved key. -/
def membersAreFree : List (String × Node) → Bool
  | [] => true
  | (_, node) :: rest => node.isFree && membersAreFree rest

/-- None of these tables, and none in them, begins with the reserved key. -/
def rowIsFree : List (List (String × Node)) → Bool
  | [] => true
  | members :: rest => !standsForMoment members && membersAreFree members && rowIsFree rest

end

namespace Value

mutual

/-- What is free of the reserved key stands for a value. -/
theorem exists_ofNode? : ∀ node : Node, node.isFree = true → ∃ value, ofNode? node = some value
  | .scalar s, _ => ⟨.scalar s, by rw [ofNode?]⟩
  | .list items, h => by
    obtain ⟨values, hvalues⟩ := exists_ofNodes? items (by rwa [Node.isFree] at h)
    exact ⟨.list values, by rw [ofNode?, hvalues]; rfl⟩
  | .inline members, h => by
    rw [Node.isFree, Bool.and_eq_true, Bool.not_eq_true'] at h
    obtain ⟨found, hfound, -⟩ := exists_ofMembers? members h.2
    exact ⟨.table found, by rw [ofNode?, h.1, hfound]; rfl⟩
  | .table standing members, h => by
    rw [Node.isFree, Bool.and_eq_true, Bool.not_eq_true'] at h
    obtain ⟨found, hfound, -⟩ := exists_ofMembers? members h.2
    exact ⟨.table found, by rw [ofNode?, h.1, hfound]; rfl⟩
  | .row reversed, h => by
    obtain ⟨values, hvalues⟩ := exists_ofRow? reversed (by rwa [Node.isFree] at h)
    exact ⟨.list values.reverse, by rw [ofNode?, hvalues]; rfl⟩

theorem exists_ofNodes? : ∀ nodes : List Node, areFree nodes = true →
    ∃ values, ofNodes? nodes = some values
  | [], _ => ⟨[], by rw [ofNodes?]⟩
  | node :: rest, h => by
    rw [areFree, Bool.and_eq_true] at h
    obtain ⟨value, hvalue⟩ := exists_ofNode? node h.1
    obtain ⟨values, hvalues⟩ := exists_ofNodes? rest h.2
    exact ⟨value :: values, by rw [ofNodes?, hvalue, hvalues]; rfl⟩

/-- Members whose values are free of the reserved key stand for members under the same keys. -/
theorem exists_ofMembers? : ∀ members : List (String × Node), membersAreFree members = true →
    ∃ found, ofMembers? members = some found ∧ found.map Prod.fst = members.map Prod.fst
  | [], _ => ⟨[], by rw [ofMembers?], rfl⟩
  | (key, node) :: rest, h => by
    rw [membersAreFree, Bool.and_eq_true] at h
    obtain ⟨value, hvalue⟩ := exists_ofNode? node h.1
    obtain ⟨found, hfound, hkeys⟩ := exists_ofMembers? rest h.2
    refine ⟨(key, value) :: found, by rw [ofMembers?, hvalue, hfound]; rfl, ?_⟩
    rw [List.map_cons, List.map_cons, hkeys]

theorem exists_ofRow? : ∀ reversed : List (List (String × Node)), rowIsFree reversed = true →
    ∃ values, ofRow? reversed = some values
  | [], _ => ⟨[], by rw [ofRow?]⟩
  | members :: rest, h => by
    rw [rowIsFree, Bool.and_eq_true, Bool.and_eq_true, Bool.not_eq_true'] at h
    obtain ⟨found, hfound, -⟩ := exists_ofMembers? members h.1.2
    obtain ⟨values, hvalues⟩ := exists_ofRow? rest h.2
    exact ⟨.table found :: values, by rw [ofRow?, h.1.1, hfound, hvalues]; rfl⟩

end

end Value

/-- **A document without the reserved key says a table**, with the keys that are in the document. -/
theorem read?_of_areFree {text : String} {members : Members} (h : document? text = some members)
    (hlead : standsForMoment members = false) (hfree : membersAreFree members = true) :
    ∃ found, read? text = some (.table found) ∧ found.map Prod.fst = members.map Prod.fst := by
  obtain ⟨found, hfound, hkeys⟩ := Value.exists_ofMembers? members hfree
  refine ⟨found, ?_, hkeys⟩
  rw [read?_eq, h, Option.bind_some, Value.ofNode?, hlead, hfound]
  rfl

end IbanWatch.Toml
