import IbanWatch.Pattern.Token
import IbanWatch.Text.Utf8

/-!
# Well-formed patterns

A pattern says which texts are meant.  It is well formed when every group that begins also ends,
every repetition has something before it to repeat, and every reference names a group that has
ended before it.  Alternatives do not see the groups of one another, but what comes behind them
sees the groups of all.  The end of a group that never began stands for itself.

## Main definitions

* `Level`, `Progress` — what is known of a group in the middle of it, and of a pattern.
* `Progress.next?` — goes on by one token.
* `isWellFormed` — whether a text is a well-formed pattern.

## References

The topics of a subscription in `librdkafka`, to which the reference's `KafkaEventSource`
subscribes.
-/

namespace IbanWatch.Pattern

open Text

/-- The number of the last group that can be referred to. -/
def lastReference : Nat := 9

/-- A group that has begun and not ended yet, or the pattern as a whole. -/
structure Level where
  /-- The number of the group, or zero for the pattern. -/
  group : Nat := 0
  /-- The groups that could be referred to where it began. -/
  before : List Nat := []
  /-- The groups that could be referred to at the end of some alternative. -/
  gathered : List Nat := []

/-- How far a pattern has been read. -/
structure Progress where
  /-- The levels around the innermost one. -/
  outer : List Level := []
  /-- The innermost level. -/
  inner : Level := {}
  /-- How many groups have begun. -/
  groups : Nat := 0
  /-- The groups that can be referred to. -/
  usable : List Nat := []
  /-- There is something to repeat. -/
  repeatable : Bool := false

namespace Progress

/-- The groups that can be referred to behind all alternatives of the innermost level so far. -/
def gathered (p : Progress) : List Nat := p.usable.foldr List.insert p.inner.gathered

/-- The progress by one token, or `none` if that must not stand here. -/
def next? (p : Progress) : Token → Option Progress
  | .single => some { p with repeatable := true }
  | .edge => some { p with repeatable := false }
  | .repetition => if p.repeatable then some p else none
  | .reference group =>
    if group ∈ p.usable then some { p with repeatable := true } else none
  | .opening =>
    let inner : Level := { group := p.groups + 1, before := p.usable }
    some { p with outer := p.inner :: p.outer, inner, groups := inner.group, repeatable := false }
  | .closing =>
    match p.outer with
    | [] => some { p with repeatable := true }
    | inner :: outer =>
      let group := p.inner.group
      let usable := if group ≤ lastReference then List.insert group p.gathered else p.gathered
      some { p with outer, inner, usable, repeatable := true }
  | .bar =>
    let inner := { p.inner with gathered := p.gathered }
    some { p with inner, usable := inner.before, repeatable := false }

end Progress

/-- Whether the tokens make a well-formed pattern. -/
def isBalanced (tokens : List Token) : Bool :=
  match tokens.foldlM Progress.next? {} with
  | some p => p.outer.isEmpty
  | none => false

/-- Whether the text is a well-formed pattern.  Each byte of it counts as a character. -/
def isWellFormed (pattern : String) : Bool :=
  match tokens? ((utf8 pattern).map fun b => Char.ofNat b.toNat) with
  | some tokens => isBalanced tokens
  | none => false

example : isWellFormed "^(a|b)+[^]x-z]\\1{2,}$" = true := by decide +kernel

example : isWellFormed "^(a)|\\1" = false := by decide +kernel

end IbanWatch.Pattern
