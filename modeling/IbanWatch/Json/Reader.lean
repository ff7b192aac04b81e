import IbanWatch.Json.Numeral
import IbanWatch.Json.Text

/-!
# Reading JSON

A text holds one value with white space around it.  Lists and objects share one rule: items between
two brackets, parted by commas, none of them behind a last comma.  An item of an object is a key, a
colon and a value.  How deep lists and objects may be nested is counted down on the way in.

## Main definitions

* `Parse` — a value found at the head of a text, with a rest that is shorter than the text.
* `readGroup` — items between brackets, for any reader of items.
* `readValue` — a value within a number of levels.
* `read` — the value that a whole text holds.

## References

The reader `from_slice` of `serde_json`, which the reference's `codec::decode` begins with.
-/

namespace IbanWatch.Json

open Text

/-- Something found at the head of the text `s`, with what is left of the text behind it. -/
structure Parse (α : Type) (s : Bytes) where
  /-- What was found. -/
  found : α
  /-- What is left. -/
  rest : Bytes
  /-- Something was read. -/
  shorter : rest.length < s.length

/-- A reader of things at the head of a text. -/
abbrev Reader (α : Type) := (s : Bytes) → Except Fault (Parse α s)

/-! ### White space and words -/

/-- Whether the byte is white space between the parts of a text. -/
def isSpaceByte (b : UInt8) : Bool := b = 32 || b = 10 || b = 9 || b = 13

/-- The text from its first byte that is not white space. -/
def skipSpace (s : Bytes) : Bytes := s.dropWhile isSpaceByte

theorem length_skipSpace_le (s : Bytes) : (skipSpace s).length ≤ s.length :=
  (List.dropWhile_suffix isSpaceByte).length_le

/-- The rest of the text behind the rest of a word. -/
def readWord : (word : Bytes) → Bytes → Except Fault Bytes
  | [], s => .ok s
  | _ :: _, [] => .error (.before .endInValue [])
  | w :: word, b :: s => if b = w then readWord word s else .error (.before .unknownWord s)

/-! ### Items between brackets -/

/-- What tells lists and objects apart on the way through their items. -/
structure Group where
  /-- The closing bracket. -/
  close : UInt8
  /-- The fault if the text ends where a bracket or a comma could stand. -/
  unfinished : Cause
  /-- The fault if an item is followed by neither a comma nor the closing bracket. -/
  goesOn : Cause

/-- The items of a list. -/
def Group.list : Group := ⟨93, .endInList, .listGoesOn⟩

/-- The members of an object. -/
def Group.object : Group := ⟨125, .endInObject, .objectGoesOn⟩

/-- The items from one that is due at the head of `s`, a later part of the text `start`, to the
closing bracket.  Those already found are given in reverse. -/
def readItems {α : Type} (group : Group) (item : Reader α) (start : Bytes) (reversed : List α)
    (s : Bytes) (within : s.length ≤ start.length) : Except Fault (Parse (List α) start) :=
  match item s with
  | .error fault => .error fault
  | .ok ⟨found, rest, shorter⟩ =>
    match h : skipSpace rest with
    | [] => .error (.on group.unfinished [])
    | b :: rest' =>
      have fewer : rest'.length + 1 ≤ rest.length := by
        simpa [h] using length_skipSpace_le rest
      if b = group.close then .ok ⟨(found :: reversed).reverse, rest', by omega⟩
      else if b = 44 then
        match h' : skipSpace rest' with
        | [] => .error (.on .endInValue [])
        | b' :: rest'' =>
          have fewer' : rest''.length + 1 ≤ rest'.length := by
            simpa [h'] using length_skipSpace_le rest'
          if b' = group.close then .error (.on .trailingComma (b' :: rest''))
          else
            readItems group item start (found :: reversed) (b' :: rest'')
              (by simp only [List.length_cons]; omega)
      else .error (.on group.goesOn (b :: rest'))
  termination_by s.length
  decreasing_by simp only [List.length_cons]; omega

/-- The items between two brackets, of which the opening one was just read. -/
def readGroup {α : Type} (group : Group) (item : Reader α) : Reader (List α) := fun s =>
  match h : skipSpace s with
  | [] => .error (.on group.unfinished [])
  | b :: rest =>
    have fewer : rest.length + 1 ≤ s.length := by simpa [h] using length_skipSpace_le s
    if b = group.close then .ok ⟨[], rest, by omega⟩
    else readItems group item s [] (b :: rest) (by simpa using fewer)

/-! ### Values -/

/-- A string, a colon and a value. -/
def readMember (value : Reader Value) : Reader (String × Value)
  | [] => .error (.on .keyNotString [])
  | q :: s =>
    if q = 34 then
      match h : readText s with
      | .error fault => .error fault
      | .ok (key, rest) =>
        have fewer := length_lt_of_readText h
        match h' : skipSpace rest with
        | [] => .error (.on .endInObject [])
        | b :: rest' =>
          have fewer' : rest'.length + 1 ≤ rest.length := by
            simpa [h'] using length_skipSpace_le rest
          if b = 58 then
            match value rest' with
            | .error fault => .error fault
            | .ok ⟨found, last, shorter⟩ =>
              .ok ⟨(key, found), last, by simp only [List.length_cons]; omega⟩
          else .error (.on .colonExpected (b :: rest'))
    else .error (.on .keyNotString (q :: s))

/-- The word `null`, `true` or `false`, whose first letter was just read. -/
def readNamed (word : Bytes) (value : Value) (s : Bytes) : Except Fault (Value × Bytes) :=
  (readWord word s).map fun rest => (value, rest)

/-- A value that is neither a list nor an object, from its first byte on. -/
def readScalar (b : UInt8) (s : Bytes) : Except Fault (Value × Bytes) :=
  if b = 110 then readNamed [117, 108, 108] .null s
  else if b = 116 then readNamed [114, 117, 101] (.bool true) s
  else if b = 102 then readNamed [97, 108, 115, 101] (.bool false) s
  else if b = 34 then (readText s).map fun (text, rest) => (.text text, rest)
  else if b = 45 then (readNumber true s).map fun (n, rest) => (.number n, rest)
  else if isDigitByte b then (readNumber false (b :: s)).map fun (n, rest) => (.number n, rest)
  else .error (.on .valueExpected (b :: s))

theorem length_le_of_readWord {word s rest : Bytes} (h : readWord word s = .ok rest) :
    rest.length ≤ s.length := by
  induction word generalizing s with
  | nil => cases h; exact Nat.le_refl _
  | cons w word ih =>
    cases s with
    | nil => cases h
    | cons b s =>
      simp only [readWord] at h
      split at h
      · have := ih h
        simp only [List.length_cons]
        omega
      · cases h

theorem length_le_of_readScalar {b : UInt8} {s rest : Bytes} {value : Value}
    (h : readScalar b s = .ok (value, rest)) : rest.length ≤ s.length := by
  have named {word : Bytes} {v : Value} (h : readNamed word v s = .ok (value, rest)) :
      rest.length ≤ s.length := by
    cases hw : readWord word s with
    | error fault => simp [readNamed, hw, Except.map] at h
    | ok last =>
      simp only [readNamed, hw, Except.map, Except.ok.injEq, Prod.mk.injEq] at h
      exact h.2 ▸ length_le_of_readWord hw
  have number {negative : Bool} {t : Bytes} (ht : t.length ≤ s.length + 1)
      (h : ((readNumber negative t).map fun (n, rest) => (Value.number n, rest))
        = .ok (value, rest)) : rest.length ≤ s.length := by
    cases hn : readNumber negative t with
    | error fault => simp [hn, Except.map] at h
    | ok found =>
      simp only [hn, Except.map, Except.ok.injEq, Prod.mk.injEq] at h
      have := length_lt_of_readNumber hn
      have := congrArg List.length h.2
      omega
  unfold readScalar at h
  split at h
  · exact named h
  split at h
  · exact named h
  split at h
  · exact named h
  split at h
  · cases ht : readText s with
    | error fault => simp [ht, Except.map] at h
    | ok found =>
      simp only [ht, Except.map, Except.ok.injEq, Prod.mk.injEq] at h
      exact h.2 ▸ Nat.le_of_lt (length_lt_of_readText ht)
  split at h
  · exact number (by omega) h
  split at h
  · exact number (by simp) h
  · cases h

/-- A value whose items, if it is a list or an object, are read by `nested`; without one the value
may not be nested any further. -/
def readLevel (nested : Option (Reader Value)) : Reader Value := fun s =>
  match h : skipSpace s with
  | [] => .error (.on .endInValue [])
  | b :: rest =>
    have fewer : rest.length + 1 ≤ s.length := by simpa [h] using length_skipSpace_le s
    if b = 91 || b = 123 then
      match nested with
      | none => .error (.on .tooDeep (b :: rest))
      | some value =>
        if b = 91 then
          (readGroup .list value rest).map fun ⟨items, last, shorter⟩ =>
            ⟨.list items, last, by omega⟩
        else
          (readGroup .object (readMember value) rest).map fun ⟨members, last, shorter⟩ =>
            ⟨.object members, last, by omega⟩
    else
      match h' : readScalar b rest with
      | .error fault => .error fault
      | .ok (value, last) =>
        .ok ⟨value, last, by have := length_le_of_readScalar h'; omega⟩

/-- A value in which lists and objects are nested at most `depth` deep. -/
def readValue : (depth : Nat) → Reader Value
  | 0 => readLevel none
  | depth + 1 => readLevel (some (readValue depth))

/-- How deep lists and objects may be nested. -/
def maxDepth : Nat := 127

/-- The value that the text holds, with nothing but white space around it. -/
def read (text : Bytes) : Except Fault Value :=
  match readValue maxDepth text with
  | .error fault => .error fault
  | .ok ⟨value, rest, _⟩ =>
    match skipSpace rest with
    | [] => .ok value
    | b :: rest' => .error (.on .trailingCharacters (b :: rest'))

end IbanWatch.Json
