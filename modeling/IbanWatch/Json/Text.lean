import IbanWatch.Json.Fault

/-!
# JSON strings

Inside its quotes a string must escape the quote, the backslash and the control characters below
the space.  Seven characters besides have a letter to escape them by; any code point can be given
by four hexadecimal digits, those beyond the first plane by a surrogate pair.

## Main definitions

* `readText` — the string whose opening quote was just read.
* `writeText` — a string as it is written: each character for itself unless it must be escaped.

## References

The strings of `serde_json`, which the reference's `codec` reads and writes with.
-/

namespace IbanWatch.Json

open Text

/-! ### Reading -/

/-- The byte that a letter stands for behind a backslash. -/
def escapedByte? (letter : UInt8) : Option UInt8 :=
  match letter with
  | 34 => some 34
  | 92 => some 92
  | 47 => some 47
  | 98 => some 8
  | 102 => some 12
  | 110 => some 10
  | 114 => some 13
  | 116 => some 9
  | _ => none

/-- The value of a hexadecimal digit of either case. -/
def hexValue? (b : UInt8) : Option Nat :=
  if 48 ≤ b && b ≤ 57 then some (b.toNat - 48)
  else if 97 ≤ b && b ≤ 102 then some (b.toNat - 87)
  else if 65 ≤ b && b ≤ 70 then some (b.toNat - 55)
  else none

/-- The value of four hexadecimal digits. -/
def hexWord? (a b c d : UInt8) : Option Nat := do
  return (((← hexValue? a) * 16 + (← hexValue? b)) * 16 + (← hexValue? c)) * 16 + (← hexValue? d)

/-- The first half of a surrogate pair. -/
def isLeadingHalf (n : Nat) : Bool := 0xD800 ≤ n && n ≤ 0xDBFF

/-- The second half of a surrogate pair. -/
def isTrailingHalf (n : Nat) : Bool := 0xDC00 ≤ n && n ≤ 0xDFFF

/-- The code point that a surrogate pair stands for. -/
def joinHalves (leading trailing : Nat) : Nat :=
  (leading - 0xD800) * 0x400 + (trailing - 0xDC00) + 0x10000

/-- Puts a code point in front of bytes that are kept in reverse. -/
def pushCodePoint (n : Nat) (reversed : Bytes) : Bytes :=
  (String.utf8EncodeChar (Char.ofNat n)).reverse ++ reversed

/-- The bytes of a string up to its closing quote, with the escapes resolved, and the rest.  The
bytes already found are given in reverse. -/
def readTextBytes (reversed : Bytes) : Bytes → Except Fault (Bytes × Bytes)
  | [] => .error (.before .endInString [])
  | 34 :: rest => .ok (reversed.reverse, rest)
  | 92 :: 117 :: a :: b :: c :: d :: rest =>
    match hexWord? a b c d with
    | none => .error (.before .badEscape rest)
    | some n =>
      if isTrailingHalf n then .error (.before .loneSurrogate rest)
      else if isLeadingHalf n then
        -- the second half has to follow at once, as an escape of its own
        match rest with
        | 92 :: 117 :: a' :: b' :: c' :: d' :: rest' =>
          match hexWord? a' b' c' d' with
          | none => .error (.before .badEscape rest')
          | some n' =>
            if isTrailingHalf n' then
              readTextBytes (pushCodePoint (joinHalves n n') reversed) rest'
            else .error (.before .loneSurrogate rest')
        | [] | [92] | 92 :: 117 :: _ => .error (.before .endInString [])
        | 92 :: _ :: rest' => .error (.before .pairCutShort rest')
        | _ :: rest' => .error (.before .pairCutShort rest')
      else readTextBytes (pushCodePoint n reversed) rest
  | 92 :: 117 :: _ => .error (.before .endInString [])
  | 92 :: letter :: rest =>
    match escapedByte? letter with
    | some b => readTextBytes (b :: reversed) rest
    | none => .error (.before .badEscape rest)
  | [92] => .error (.before .endInString [])
  | b :: rest =>
    if b < 32 then .error (.before .controlCharacter rest)
    else readTextBytes (b :: reversed) rest

/-- What is left of a text from so many bytes before a closing quote on, where `rest` is what is
behind the quote. -/
def beforeQuote (s rest : Bytes) (count : Nat) : Bytes :=
  s.drop (s.length - (count + 1 + rest.length))

/-- The string whose opening quote was just read, and the rest behind its closing quote.  Whether
its bytes are valid UTF-8 is asked once it is complete.  The fault is then as many bytes before the
closing quote as the resolved string has from the first byte on that begins no character; without
escapes that is the very byte. -/
def readText (s : Bytes) : Except Fault (String × Bytes) := do
  let (bytes, rest) ← readTextBytes [] s
  match ofUtf8? bytes with
  | some text => return (text, rest)
  | none => throw (.on .badCodePoint (beforeQuote s rest (dropEncoded bytes).length))

theorem length_lt_of_readTextBytes {reversed s bytes rest : Bytes}
    (h : readTextBytes reversed s = .ok (bytes, rest)) : rest.length < s.length := by
  fun_induction readTextBytes reversed s <;> simp_all <;> omega

theorem length_lt_of_readText {s rest : Bytes} {text : String}
    (h : readText s = .ok (text, rest)) : rest.length < s.length := by
  cases hb : readTextBytes [] s with
  | error fault => simp [readText, hb, bind, Except.bind] at h
  | ok found =>
    obtain ⟨bytes, rest'⟩ := found
    simp only [readText, hb, bind, Except.bind] at h
    split at h
    · cases h
      exact length_lt_of_readTextBytes hb
    · cases h

/-! ### Writing -/

/-- The letter that escapes a character behind a backslash. -/
def letterFor? : Char → Option Char
  | '"' => some '"'
  | '\\' => some '\\'
  | '\x08' => some 'b'
  | '\x0c' => some 'f'
  | '\n' => some 'n'
  | '\r' => some 'r'
  | '\t' => some 't'
  | _ => none

/-- A control character by its code point, in four hexadecimal digits. -/
def controlEscape (c : Char) : List Char :=
  ['\\', 'u', '0', '0', Nat.digitChar (c.toNat / 16), Nat.digitChar (c.toNat % 16)]

/-- One character as it stands between the quotes. -/
def writeChar (c : Char) : List Char :=
  match letterFor? c with
  | some letter => ['\\', letter]
  | none => if c.toNat < 32 then controlEscape c else [c]

/-- The string between quotes. -/
def writeText (s : String) : String :=
  String.ofList ('"' :: (s.toList.flatMap writeChar ++ ['"']))

/-- An object whose members are all strings, in the given order and without white space. -/
def writeTexts (members : List (String × String)) : String :=
  let written := members.map fun (key, value) => writeText key ++ ":" ++ writeText value
  "\x7b" ++ ",".intercalate written ++ "\x7d"

end IbanWatch.Json
