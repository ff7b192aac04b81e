import IbanWatch.Json.Reader
import IbanWatch.Text.Numeral

/-!
# The grammar of JSON

Which texts are JSON and what they denote, said without a reader.  The rules are those of RFC 8259
over the characters of a text, one constructor for each way of writing a thing, with the bounds that
the reader sets: lists and objects lie within each other only so deep, a number is one that can be
kept, and what is escaped by its code point is a character or a surrogate pair.

## Main definitions

* `Spells`, `SpellsAll`, `Quotes` — the ways to write a character, a row of them and a string.
* `Numeral.IsWritten` — the ways to write a numeral.
* `Scalar`, `Denotes` — the values that are neither lists nor objects, and all values.
* `Holds` — the value that a payload holds as a JSON text in UTF-8.
-/

namespace IbanWatch.Json

open Text

/-! ### White space -/

/-- White space between the parts of a text. -/
def isSpace (c : Char) : Bool := c = ' ' || c = '\n' || c = '\t' || c = '\r'

/-- The text is nothing but white space. -/
def IsBlank (s : List Char) : Prop := ∀ c ∈ s, isSpace c = true

/-! ### Strings -/

/-- The letters that may follow a backslash, each with the character that the two stand for. -/
def shortEscapes : List (Char × Char) :=
  [('"', '"'), ('\\', '\\'), ('/', '/'), ('b', '\x08'), ('f', '\x0c'), ('n', '\n'), ('r', '\r'),
    ('t', '\t')]

/-- Whether the character is a hexadecimal digit of either case. -/
def isHexDigit (c : Char) : Bool :=
  ('0' ≤ c && c ≤ '9') || ('a' ≤ c && c ≤ 'f') || ('A' ≤ c && c ≤ 'F')

/-- Four hexadecimal digits that spell `n`. -/
structure IsHexWord (digits : List Char) (n : Nat) : Prop where
  /-- There are four of them. -/
  length : digits.length = 4
  /-- Each is a hexadecimal digit. -/
  all : ∀ c ∈ digits, isHexDigit c = true
  /-- This is the number they spell. -/
  value : numeralValue 16 digits = n

/-- The ways to write a character between quotes. -/
inductive Spells : List Char → Char → Prop
  /-- By itself, unless it is a control character, the quote or the backslash. -/
  | plain {c : Char} (hc : ' ' ≤ c) (hquote : c ≠ '"') (hslash : c ≠ '\\') : Spells [c] c
  /-- By a backslash and a letter. -/
  | short {letter c : Char} (h : (letter, c) ∈ shortEscapes) : Spells ['\\', letter] c
  /-- By its code point, if four digits are enough. -/
  | code {digits : List Char} {c : Char} (h : IsHexWord digits c.toNat) :
      Spells ('\\' :: 'u' :: digits) c
  /-- By the two halves of a surrogate pair, if four digits are not enough. -/
  | pair {first second : List Char} {high low : Nat} {c : Char}
      (hfirst : IsHexWord first high) (hhigh : 0xD800 ≤ high ∧ high ≤ 0xDBFF)
      (hsecond : IsHexWord second low) (hlow : 0xDC00 ≤ low ∧ low ≤ 0xDFFF)
      (hc : c.toNat = 0x10000 + (high - 0xD800) * 0x400 + (low - 0xDC00)) :
      Spells ('\\' :: 'u' :: (first ++ '\\' :: 'u' :: second)) c

/-- A row of characters, each written in one of the ways. -/
inductive SpellsAll : List Char → List Char → Prop
  /-- No character. -/
  | nil : SpellsAll [] []
  /-- A character and those behind it. -/
  | cons {s t : List Char} {c : Char} {cs : List Char} (hc : Spells s c) (hcs : SpellsAll t cs) :
      SpellsAll (s ++ t) (c :: cs)

/-- The text is the string between quotes. -/
def Quotes (s : List Char) (text : String) : Prop :=
  ∃ inner, s = '"' :: (inner ++ ['"']) ∧ SpellsAll inner text.toList

/-! ### Numbers -/

/-- Decimal digits as characters. -/
def digitsText (digits : Digits) : List Char := digits.map Nat.digitChar

/-- One decimal digit or more. -/
def IsDigits (digits : Digits) : Prop := digits ≠ [] ∧ ∀ d ∈ digits, d < 10

/-- The digits before the point: a zero alone, or digits that do not begin with zero. -/
def IsWhole (digits : Digits) : Prop := digits = [0] ∨ IsDigits digits ∧ digits.head? ≠ some 0

/-- The ways to write a fraction. -/
inductive FractionText : Option Digits → List Char → Prop
  /-- There is none. -/
  | absent : FractionText none []
  /-- The point and the digits behind it. -/
  | present {digits : Digits} (h : IsDigits digits) :
      FractionText (some digits) ('.' :: digitsText digits)

/-- The ways to write the sign of an exponent. -/
inductive ExponentSign : Bool → List Char → Prop
  /-- None, which is a plus sign. -/
  | absent : ExponentSign false []
  /-- A plus sign. -/
  | plus : ExponentSign false ['+']
  /-- A minus sign. -/
  | minus : ExponentSign true ['-']

/-- The ways to write an exponent. -/
inductive ExponentText : Option Exponent → List Char → Prop
  /-- There is none. -/
  | absent : ExponentText none []
  /-- The mark in either case, a sign and digits. -/
  | present {mark : Char} {negative : Bool} {sign : List Char} {digits : Digits}
      (hmark : mark = 'e' ∨ mark = 'E') (hsign : ExponentSign negative sign)
      (h : IsDigits digits) :
      ExponentText (some ⟨negative, digits⟩) (mark :: (sign ++ digitsText digits))

/-- The ways to write a numeral behind its sign. -/
structure Numeral.IsUnsigned (n : Numeral) (s : List Char) : Prop where
  /-- The digits before the point. -/
  whole : IsWhole n.whole
  /-- The digits are followed by a fraction and an exponent. -/
  parts : ∃ fraction exponent, FractionText n.fraction fraction
    ∧ ExponentText n.exponent exponent ∧ s = digitsText n.whole ++ (fraction ++ exponent)

/-- The ways to write a numeral. -/
inductive Numeral.IsWritten (n : Numeral) : List Char → Prop
  /-- Without a sign. -/
  | positive {s : List Char} (hn : n.negative = false) (h : n.IsUnsigned s) : n.IsWritten s
  /-- Behind a minus sign. -/
  | negative {s : List Char} (hn : n.negative = true) (h : n.IsUnsigned s) :
      n.IsWritten ('-' :: s)

/-! ### Values -/

/-- The texts that denote a value which is neither a list nor an object. -/
inductive Scalar : List Char → Value → Prop
  | null : Scalar ['n', 'u', 'l', 'l'] .null
  | yes : Scalar ['t', 'r', 'u', 'e'] (.bool true)
  | no : Scalar ['f', 'a', 'l', 's', 'e'] (.bool false)
  /-- A numeral for a number that can be kept, which one that is too large cannot. -/
  | number {numeral : Numeral} {s : List Char} {n : Number} (h : numeral.IsWritten s)
      (hn : numeral.number = .ok n) : Scalar s (.number n)
  | text {s : List Char} {text : String} (h : Quotes s text) : Scalar s (.text text)

/-- The texts parted by commas. -/
def commaList (parts : List (List Char)) : List Char := List.intercalate [','] parts

/-- A member of an object as it is written. -/
structure MemberText where
  /-- White space before the key. -/
  before : List Char
  /-- The key between its quotes. -/
  keyText : List Char
  /-- White space behind the key. -/
  after : List Char
  /-- The text of the value. -/
  valueText : List Char
  /-- The key. -/
  key : String
  /-- The value. -/
  value : Value

/-- The member: a key, a colon and a value. -/
def MemberText.text (m : MemberText) : List Char :=
  m.before ++ (m.keyText ++ (m.after ++ ':' :: m.valueText))

/-- The member that is written. -/
def MemberText.member (m : MemberText) : String × Value := (m.key, m.value)

/-- The key of the member is well written. -/
structure MemberText.IsKeyed (m : MemberText) : Prop where
  before : IsBlank m.before
  after : IsBlank m.after
  key : Quotes m.keyText m.key

/-- The texts that denote a value in which lists and objects lie at most `depth` deep within each
other. -/
inductive Denotes : (depth : Nat) → List Char → Value → Prop
  | scalar {depth : Nat} {s : List Char} {v : Value} (h : Scalar s v) : Denotes depth s v
  /-- White space on either side changes nothing. -/
  | padded {depth : Nat} {before s after : List Char} {v : Value} (hbefore : IsBlank before)
      (hafter : IsBlank after) (h : Denotes depth s v) : Denotes depth (before ++ (s ++ after)) v
  | emptyList {depth : Nat} {s : List Char} (h : IsBlank s) :
      Denotes (depth + 1) ('[' :: (s ++ [']'])) (.list [])
  | list {depth : Nat} {parts : List (List Char × Value)} (hne : parts ≠ [])
      (h : ∀ p ∈ parts, Denotes depth p.1 p.2) :
      Denotes (depth + 1) ('[' :: (commaList (parts.map Prod.fst) ++ [']']))
        (.list (parts.map Prod.snd))
  | emptyObject {depth : Nat} {s : List Char} (h : IsBlank s) :
      Denotes (depth + 1) ('{' :: (s ++ ['}'])) (.object [])
  | object {depth : Nat} {parts : List MemberText} (hne : parts ≠ [])
      (hkey : ∀ p ∈ parts, p.IsKeyed) (h : ∀ p ∈ parts, Denotes depth p.valueText p.value) :
      Denotes (depth + 1) ('{' :: (commaList (parts.map MemberText.text) ++ ['}']))
        (.object (parts.map MemberText.member))

/-- The payload is a JSON text in UTF-8, and this is its value. -/
def Holds (payload : Bytes) (v : Value) : Prop :=
  ∃ s : String, payload = utf8 s ∧ Denotes maxDepth s.toList v

/-! ### Parts and commas -/

@[simp] theorem isBlank_nil : IsBlank [] := fun _ h => absurd h List.not_mem_nil

@[simp] theorem commaList_singleton (s : List Char) : commaList [s] = s := by
  simp [commaList, List.intercalate]

theorem commaList_cons_cons (s t : List Char) (parts : List (List Char)) :
    commaList (s :: t :: parts) = s ++ ',' :: commaList (t :: parts) := by
  simp [commaList, List.intercalate]

end IbanWatch.Json
