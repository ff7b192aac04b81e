/-!
# How a call ends

A call gives a value back, or it unwinds its caller, as a panic of the reference does.

## Main definitions

* `Ending` — the two ways to end.
* `Ending.map`, `Ending.andThen` — the same ending with another value, and one call after another.
-/

namespace IbanWatch

/-- How a call ends. -/
inductive Ending (α : Type) where
  /-- It gives a value back. -/
  | returned (value : α)
  /-- It unwinds the caller. -/
  | unwound
  deriving DecidableEq, Repr

namespace Ending

/-- The same ending with another value. -/
def map {α β : Type} (f : α → β) : Ending α → Ending β
  | .returned value => .returned (f value)
  | .unwound => .unwound

/-- The ending of what is done with the value, if there is one. -/
def andThen {α β : Type} (ending : Ending α) (next : α → Ending β) : Ending β :=
  match ending with
  | .returned value => next value
  | .unwound => .unwound

end Ending

end IbanWatch
