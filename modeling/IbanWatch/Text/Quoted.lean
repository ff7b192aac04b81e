import IbanWatch.Text.Printable

/-!
# Quoted text for people

Characters and strings as messages and log lines show them: between quotes, with nothing inside
that could end the quotes, break the line or hide itself.  Five characters have a short escape, the
quote in use gets a backslash, and every other character that is not shown is given by its code
point in braces.

## Main definitions

* `escape` — one character as it stands between the quotes `q`.
* `quotedChar`, `quoted` — a character in single quotes, a string in double quotes.

## References

The form of characters and strings for debugging, in which the reference's `process` logs what comes
from a message and its `IbanError` shows a character.
-/

namespace IbanWatch.Text

/-- The hexadecimal digits of `n` in lower case, without padding. -/
def hexDigits (n : Nat) : List Char := Nat.toDigits 16 n

/-- The character given by its code point: `\u`, then the hexadecimal digits in braces. -/
def codePointEscape (c : Char) : List Char :=
  '\\' :: 'u' :: '{' :: (hexDigits c.toNat ++ ['}'])

/-- The letter that, after a backslash, stands for the character. -/
def escapeLetter? : Char → Option Char
  | '\x00' => some '0'
  | '\t' => some 't'
  | '\n' => some 'n'
  | '\r' => some 'r'
  | '\\' => some '\\'
  | _ => none

/-- The character as it is written between two quotes `q`. -/
def escape (q c : Char) : List Char :=
  match escapeLetter? c with
  | some l => ['\\', l]
  | none =>
    if c = q then ['\\', c]
    else if isShown c then [c]
    else codePointEscape c

/-- The character in single quotes. -/
def quotedChar (c : Char) : String := String.ofList ('\'' :: (escape '\'' c ++ ['\'']))

/-- The string in double quotes. -/
def quoted (s : String) : String :=
  String.ofList ('"' :: (s.toList.flatMap (escape '"') ++ ['"']))

example : quotedChar '\'' = "'\\''" ∧ quotedChar '"' = "'\"'" := by decide +kernel

example : quoted "a\"\n\u200b" = "\"a\\\"\\n\\u\x7b200b\x7d\"" := by decide +kernel

end IbanWatch.Text
