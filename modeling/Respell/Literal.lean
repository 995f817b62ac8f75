/-
  Numeric literals in a text.

  1. **Shapes.**  A marked literal is `0x`, `0b` or `0o`, the letter in either case, and as many
     digits of its base as follow, at least one.  It may begin and end inside a word.  A decimal
     literal is a run of ASCII digits with no ASCII word character on either side.

  2. **The scan** goes from left to right.  At each place the marked shape is tried first; a
     literal, once found, is passed over whole.  `spellings` is this scan; it looks at characters
     only and cannot fail.

  3. **Values.**  Each spelling is then read.  A decimal spelling can be too long to read, so
     `readAll` gives a result for each, in order; a search that stops early never meets a later one
     that cannot be read.  `scan` asks for all of them.
-/
import Respell.Numeral

namespace Respell

/-- A literal: its spelling, the offset of its first character, and its value. -/
structure Literal where
  spelling : Text
  start : Nat
  value : Nat
  deriving DecidableEq, Repr, Inhabited

namespace Literal

/-- The offset just past the last character of a literal. -/
def stop (l : Literal) : Nat := l.start + l.spelling.length

/-- Whether an offset lies in a literal or at one of its two ends. -/
def touches (l : Literal) (offset : Int) : Bool := l.start ≤ offset ∧ offset ≤ l.stop

/-! ## Shapes -/

/-- Letters, digits and the underscore of ASCII, between which no decimal literal begins or ends. -/
def isWordChar (c : Char) : Bool := c.isAlphanum || c = '_'

/-- The length of the marked literal at the start of a text, zero if there is none. -/
def markedLength (t : Text) : Nat :=
  match t with
  | '0' :: c :: ds =>
    match Numeral.markedBase? c with
    | some b =>
      let run := ds.takeWhile b.hasDigit
      if run.isEmpty then 0 else run.length + 2
    | none => 0
  | _ => 0

example : markedLength ['0', 'x', 'F', 'g'] = 3 ∧ markedLength ['0', 'x', 'g'] = 0 := by decide

/-- Whether the first character of a text, if any, belongs to an ASCII word. -/
def beginsWord : Text → Bool
  | [] => false
  | c :: _ => isWordChar c

/-- The length of the decimal literal at the start of a text, zero if there is none; `inWord` says
that a word character stands in front. -/
def decimalLength (inWord : Bool) (t : Text) : Nat :=
  if inWord || beginsWord (t.dropWhile Base.decimal.hasDigit) then 0
  else (t.takeWhile Base.decimal.hasDigit).length

example : decimalLength false ['1', '2', ';'] = 2 ∧ decimalLength false ['1', 'u'] = 0 := by decide
example : decimalLength true ['1'] = 0 := by decide

/-- The length of the literal at the start of a text, zero if there is none. -/
def lengthAt (inWord : Bool) (t : Text) : Nat :=
  match markedLength t with
  | 0 => decimalLength inWord t
  | n + 1 => n + 1

/-! ## The scan -/

/-- A spelling found in a text, and the offset of its first character. -/
structure Spelling where
  start : Nat
  text : Text
  deriving DecidableEq, Repr

/-- The spellings in a text that stands at offset `pos`, after a word character or not. -/
def spellingsFrom (inWord : Bool) (pos : Nat) : Text → List Spelling
  | [] => []
  | c :: t =>
    match lengthAt inWord (c :: t) with
    | 0 => spellingsFrom (isWordChar c) (pos + 1) t
    | n + 1 => ⟨pos, c :: t.take n⟩ :: spellingsFrom true (pos + (n + 1)) (t.drop n)
termination_by t => t.length
decreasing_by all_goals simp only [List.length_cons, List.length_drop]; omega

/-- The spellings of the literals of a text, from left to right. -/
def spellings (t : Text) : List Spelling := spellingsFrom false 0 t

example : spellings ['1', ' ', '0', 'b', '1', '2'] = [⟨0, ['1']⟩, ⟨2, ['0', 'b', '1']⟩] := by
  decide +kernel
example : spellings ['x', '1', ' ', '1', 'é'] = [⟨3, ['1']⟩] := by decide +kernel

/-- The literal with a spelling; `none` for a spelling that is no numeral, which the scan never
finds. -/
def ofSpelling? (s : Spelling) : Except NumeralError (Option Literal) :=
  (Numeral.read s.text).map fun v? => v?.map fun v => ⟨s.text, s.start, v⟩

/-- The literals of a text in order, each read or refused. -/
def readAll (t : Text) : List (Except NumeralError Literal) :=
  (spellings t).filterMap fun s =>
    match ofSpelling? s with
    | .error e => some (.error e)
    | .ok none => none
    | .ok (some l) => some (.ok l)

/-- The literals of a text. -/
def scan (t : Text) : Except NumeralError (List Literal) := allOf (readAll t)

example : scan ['0', 'x', '1', 'F'] = .ok [⟨['0', 'x', '1', 'F'], 0, 31⟩] := by decide +kernel

/-! ## The literal at an offset -/

/-- The first literal that touches an offset, in a list that is in order. -/
def firstTouching (offset : Int) :
    List (Except NumeralError Literal) → Except NumeralError (Option Literal)
  | [] => .ok none
  | .error e :: _ => .error e
  | .ok l :: rest =>
    if offset < l.start then .ok none
    else if l.touches offset then .ok (some l)
    else firstTouching offset rest

/-- The literal that an offset lies in or at an end of. -/
def at? (t : Text) (offset : Int) : Except NumeralError (Option Literal) :=
  firstTouching offset (readAll t)

/-- The first literal with a given spelling, in a list that is in order. -/
def firstSpelled (s : Text) :
    List (Except NumeralError Literal) → Except NumeralError (Option Literal)
  | [] => .ok none
  | .error e :: _ => .error e
  | .ok l :: rest => if l.spelling = s then .ok (some l) else firstSpelled s rest

end Literal

end Respell
