import IbanWatch.Text.Ranges

/-!
# White space

The characters with the `White_Space` property: the blanks and line ends of every script, but not
the joiners and zero-width characters.

## Main definitions

* `isBlank`, `isGap` — whether a character is white space, and whether it is a space or a tab.
* `IsBlankText` — a text with nothing but white space in it, the empty one included.
* `trimBlankStart`, `trimBlankEnd` — a text without the white space at one end.
-/

namespace IbanWatch.Text

/-- The code points with the `White_Space` property. -/
def blankRanges : Ranges := { ranges :=
  [(0x09, 0x0D), (0x20, 0x20), (0x85, 0x85), (0xA0, 0xA0), (0x1680, 0x1680), (0x2000, 0x200A),
   (0x2028, 0x2029), (0x202F, 0x202F), (0x205F, 0x205F), (0x3000, 0x3000)] }

/-- Whether the character is white space. -/
def isBlank (c : Char) : Bool := blankRanges.contains c.toNat

/-- Whether the character is a space or a tab, the white space within a line of a written format. -/
def isGap (c : Char) : Bool := c == ' ' || c == '\t'

/-- The text holds nothing but white space. -/
def IsBlankText (s : String) : Prop := s.toList.all isBlank = true

instance (s : String) : Decidable (IsBlankText s) :=
  inferInstanceAs (Decidable (s.toList.all isBlank = true))

/-- The text from its first character that is not white space. -/
def trimBlankStart (l : List Char) : List Char := l.dropWhile isBlank

/-- The text up to its last character that is not white space. -/
def trimBlankEnd (l : List Char) : List Char := (l.reverse.dropWhile isBlank).reverse

example : isBlank '\u00a0' = true ∧ isBlank '\u200b' = false := by decide

end IbanWatch.Text
