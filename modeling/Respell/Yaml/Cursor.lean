/-
  A place in a text that is read, with its line and column.

  A cursor is what is left of the text, together with three counts: the characters in front of it,
  the line breaks among them, and the characters since the last of these.  The byte order mark has
  no column.  A newline, the next-line character and the two Unicode separators break lines; the
  first two are read as a newline and the others as themselves.

  Like all modules under `Respell.Yaml`, this one stands for a library (see `Respell.Yaml.Read`).
-/
import Respell.Text

namespace Respell.Yaml

/-! ## Characters -/

/-- Whether a character ends a line. -/
def isBreak (c : Char) : Bool := c = '\n' || c = '\x85' || c = '\u2028' || c = '\u2029'

/-- Whether a character is a space or a tab. -/
def isSpace (c : Char) : Bool := c = ' ' || c = '\t'

/-- Whether a text ends here or goes on in another line. -/
def isLineEnd : Option Char → Bool
  | none => true
  | some c => isBreak c

/-- Whether a text ends here or goes on with a space, a tab or another line. -/
def isGap : Option Char → Bool
  | none => true
  | some c => isSpace c || isBreak c

/-- Whether a text ends here or goes on with a space or another line. -/
def isSpaceOrEnd : Option Char → Bool
  | none => true
  | some c => c = ' ' || isBreak c

/-- Whether a character may stand in a name. -/
def isNameChar (c : Char) : Bool := c.isAlphanum || c = '-' || c = '_'

/-- Whether a character may stand in a text of this format at all. -/
def isAllowed (c : Char) : Bool :=
  let n := c.toNat
  c = '\t' || c = '\n' || (0x20 ≤ n && n ≤ 0x7E) || n = 0x85 || (0xA0 ≤ n && n ≤ 0xD7FF) ||
    (0xE000 ≤ n && n ≤ 0xFFFD) || (0x10000 ≤ n && n ≤ 0x10FFFF)

example : isAllowed '\x7f' = false ∧ isAllowed 'é' = true ∧ isAllowed '\ufeff' = true := by decide

/-! ## Cursors -/

/-- What is left of a text, and the counts of what is in front of it. -/
structure Cursor where
  rest : Text
  index : Nat
  line : Nat
  column : Nat
  deriving DecidableEq, Repr

namespace Cursor

/-- The cursor at the start of a text. -/
def start (t : Text) : Cursor := ⟨t, 0, 0, 0⟩

/-- The next character. -/
def peek (c : Cursor) : Option Char := c.rest.head?

/-- The character `n` places further on. -/
def peekAt (c : Cursor) (n : Nat) : Option Char := c.rest[n]?

/-- The cursor one character further on. -/
def next (c : Cursor) : Cursor :=
  match c.rest with
  | [] => c
  | x :: rest =>
    if isBreak x then ⟨rest, c.index + 1, c.line + 1, 0⟩
    else if x = '\ufeff' then ⟨rest, c.index + 1, c.line, c.column⟩
    else ⟨rest, c.index + 1, c.line, c.column + 1⟩

/-- The cursor some characters further on. -/
def skip (c : Cursor) : Nat → Cursor
  | 0 => c
  | n + 1 => c.next.skip n

/-- The longest run of characters of a class, and the cursor behind it. -/
def run (p : Char → Bool) (c : Cursor) : Text × Cursor :=
  (c.rest.takeWhile p, c.skip (c.rest.takeWhile p).length)

/-- The cursor behind a run of spaces. -/
def skipSpaces (c : Cursor) : Cursor := (c.run (· = ' ')).2

/-- The cursor at the end of the comment that stands here, if any. -/
def skipComment (c : Cursor) : Cursor :=
  if c.peek = some '#' then (c.run (!isBreak ·)).2 else c

/-- A line break as it is read, and the cursor behind it. -/
def lineBreak? (c : Cursor) : Option (Char × Cursor) :=
  match c.peek with
  | none => none
  | some x => if isBreak x then some (if x = '\x85' then '\n' else x, c.next) else none

/-- Whether three equal characters and a gap stand here. -/
def hasMark (c : Cursor) (x : Char) : Bool := [x, x, x].isPrefixOf c.rest && isGap (c.peekAt 3)

/-- Whether a line begins here that starts or ends a document. -/
def hasDocumentMark (c : Cursor) : Bool := c.hasMark '-' || c.hasMark '.'

example : (start ['a', '\n', 'b']).next.next = ⟨['b'], 2, 1, 0⟩ := by decide
example : (start ['-', '-', '-', '\n']).hasDocumentMark = true := by decide

end Cursor

end Respell.Yaml
