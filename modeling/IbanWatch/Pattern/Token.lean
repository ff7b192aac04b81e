import IbanWatch.Pattern.Brackets

/-!
# Tokens of patterns

A pattern is a row of tokens.  What a token matches is of no interest here, only what may stand
beside it.

## Main definitions

* `Token` — the kinds of tokens.
* `tokens?` — the tokens of a pattern.
-/

namespace IbanWatch.Pattern

open Text Reader

/-- A token of a pattern. -/
inductive Token where
  /-- A character, a set of characters, or any character. -/
  | single
  /-- An edge of a line, of a word or of the text. -/
  | edge
  /-- How often the token or the group before it is repeated. -/
  | repetition
  /-- What a group has matched. -/
  | reference (group : Nat)
  /-- The beginning of a group. -/
  | opening
  /-- The end of a group. -/
  | closing
  /-- The bar between two alternatives. -/
  | bar
  deriving DecidableEq, Repr

namespace Token

/-- The token that a character stands for behind a backslash. -/
def escaped (c : Char) : Token :=
  if '1' ≤ c ∧ c ≤ '9' then .reference (digitValue c)
  else if c ∈ ['<', '>', 'b', 'B', '\x60', '\x27'] then .edge
  else .single

/-- The token that a character stands for by itself. -/
def plain (c : Char) : Token :=
  match c with
  | '^' | '$' => .edge
  | '*' | '+' | '?' => .repetition
  | '(' => .opening
  | ')' => .closing
  | '|' => .bar
  | _ => .single

/-- Whether the character begins a token of several characters. -/
def isInitial (c : Char) : Bool := c == '[' || c == '\x7b' || c == '\\'

/-- One token. -/
def reader : Reader Token :=
  ((fun _ => .single) <$> set)
    <|> ((fun _ => .repetition) <$> interval)
    <|> (escaped <$> (char '\\' *> one fun _ => true))
    <|> plain <$> one fun c => !isInitial c

end Token

/-- The tokens of a pattern, if it can be taken apart into tokens. -/
def tokens? (pattern : List Char) : Option (List Token) :=
  ((many Token.reader <* finish) pattern).map (·.1)

end IbanWatch.Pattern
