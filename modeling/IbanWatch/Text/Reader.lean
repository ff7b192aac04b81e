/-!
# Readers

A reader takes something from the head of a text and leaves the rest, or fails.  A reader that
fails has read nothing, so another may be tried in its place.

## Main definitions

* `Reader` — what reads at the head of a text.
* `one`, `word`, `taken`, `run` — one character of a class, a fixed word, a run of a class.
* `many`, `separated`, `optionally` — repetitions of a reader, and a reader that may be missing.
-/

namespace IbanWatch.Text

/-- What reads at the head of a text. -/
abbrev Reader (α : Type) := StateT (List Char) Option α

namespace Reader

/-! ### Characters -/

/-- One character of a class. -/
def one (accepted : Char → Bool) : Reader Char
  | [] => none
  | c :: rest => if accepted c then some (c, rest) else none

/-- One given character. -/
def char (c : Char) : Reader Unit := (fun _ => ()) <$> one (· == c)

/-- A fixed word. -/
def word (letters : List Char) : Reader Unit := letters.forM char

/-- The longest run of characters of a class, which may be empty. -/
def taken (accepted : Char → Bool) : Reader (List Char) :=
  fun s => some (s.takeWhile accepted, s.dropWhile accepted)

/-- The longest run of characters of a class, which may not be empty. -/
def run (accepted : Char → Bool) : Reader (List Char) :=
  List.cons <$> one accepted <*> taken accepted

/-- Succeeds at the end of the text. -/
def finish : Reader Unit
  | [] => some ((), [])
  | _ :: _ => none

/-! ### Combinations -/

/-- What the reader finds, if it does not fail. -/
def optionally {α : Type} (item : Reader α) : Reader (Option α) :=
  (some <$> item) <|> pure none

/-- As many items as there are.  An item that reads nothing is the last. -/
def many {α : Type} (item : Reader α) (s : List Char) : Option (List α × List Char) :=
  match item s with
  | none => some ([], s)
  | some (found, rest) =>
    if rest.length < s.length then
      (many item rest).map fun (more, last) => (found :: more, last)
    else some ([found], rest)
  termination_by s.length

/-- One item or more, with a separator before every item but the first. -/
def separated {α : Type} (separator : Reader Unit) (item : Reader α) : Reader (List α) := do
  let first ← item
  let more ← many (separator *> item)
  return first :: more

end Reader

end IbanWatch.Text
