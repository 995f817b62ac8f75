/-
  The keys that move the cursor of a document or change the text at it.

  A move past the end of a line goes on in the next one, and a move to another line keeps the column
  as far as that line goes.  Deleting at the end of a line, in either direction, joins two lines.
-/
import Respell.Document

namespace Respell.Document

/-! ## Moving -/

/-- The line of the cursor, empty if there is none. -/
def currentLine (d : Document) : Text := lineOrEmpty d.lines d.line

/-- The index of the last line. -/
def lastLine (d : Document) : Int := d.lines.length - 1

/-- The document with the cursor in a line and its column cut to that line. -/
def toLine (d : Document) (line : Int) : Document :=
  { d with line, column := min d.column (lineOrEmpty d.lines line).length }

/-- One character back. -/
def moveLeft (d : Document) : Document :=
  if 0 < d.column then { d with column := d.column - 1 }
  else if 0 < d.line then
    { d with line := d.line - 1, column := (lineOrEmpty d.lines (d.line - 1)).length }
  else d

/-- One character on. -/
def moveRight (d : Document) : Document :=
  if d.column < d.currentLine.length then { d with column := d.column + 1 }
  else if d.line < d.lastLine then { d with line := d.line + 1, column := 0 }
  else d

/-- One line up. -/
def moveUp (d : Document) : Document := if d.line = 0 then d else d.toLine (d.line - 1)

/-- One line down. -/
def moveDown (d : Document) : Document := if d.lastLine ≤ d.line then d else d.toLine (d.line + 1)

/-- To the start of the line. -/
def moveToLineStart (d : Document) : Document := { d with column := 0 }

/-- To the end of the line. -/
def moveToLineEnd (d : Document) : Document := { d with column := d.currentLine.length }

/-- Up by a number of lines. -/
def pageUp (d : Document) (height : Int) : Document := d.toLine (max 0 (d.line - height))

/-- Down by a number of lines. -/
def pageDown (d : Document) (height : Int) : Document := d.toLine (min d.lastLine (d.line + height))

/-! ## Changing the text -/

/-- Puts a text at the cursor. -/
def type (d : Document) (t : Text) : Attempt Document DocumentError Unit :=
  d.insert d.line d.column t

/-- Breaks the line at the cursor. -/
def breakLine (d : Document) : Attempt Document DocumentError Unit := d.split d.line d.column

/-- Takes out the character at the cursor. -/
def deleteForward (d : Document) : Attempt Document DocumentError Unit :=
  if d.column < d.currentLine.length then d.delete d.line d.column (d.column + 1)
  else if d.line < d.lastLine then .done { d.join (d.line + 1) with column := d.column } ()
  else .done d ()

/-- Takes out the character in front of the cursor. -/
def deleteBackward (d : Document) : Attempt Document DocumentError Unit :=
  if 0 < d.column then d.delete d.line (d.column - 1) d.column
  else if 0 < d.line then .done (d.join d.line) ()
  else .done d ()

example : ((ofText ['a', '\n', 'b']).moveToLineEnd.deleteForward).state.text = ['a', 'b'] := by
  decide +kernel
example : ((ofText ['a', '\n', 'b']).moveDown.deleteBackward).state.column = 1 := by decide +kernel

end Respell.Document
