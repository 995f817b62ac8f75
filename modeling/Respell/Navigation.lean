/-
  Going from literal to literal.

  The literals of a document form a cycle.  The next one is the first that starts after an offset;
  the previous one is the last that ends before it.  Where there is none, the search goes round.
-/
import Respell.Document
import Respell.Literal

namespace Respell.Navigation

/-- The first literal that starts after an offset, or else the first of all. -/
def next? (ls : List Literal) (offset : Int) : Option Literal :=
  match ls.find? fun l => offset < l.start with
  | some l => some l
  | none => ls.head?

/-- The last literal of those in front of the first that ends at or after an offset, or else the
last of all. -/
def previous? (ls : List Literal) (offset : Int) : Option Literal :=
  match (ls.takeWhile fun l => l.stop < offset).getLast? with
  | some l => some l
  | none => ls.getLast?

/-- The literals of a document. -/
def literals (d : Document) : Except NumeralError (List Literal) := Literal.scan d.text

/-- The literal at the cursor. -/
def atCursor? (d : Document) : Except NumeralError (Option Literal) := Literal.at? d.text d.cursor

/-- The literal after the cursor. -/
def afterCursor? (d : Document) : Except NumeralError (Option Literal) :=
  (literals d).map (next? · d.cursor)

/-- The literal before the cursor. -/
def beforeCursor? (d : Document) : Except NumeralError (Option Literal) :=
  (literals d).map (previous? · d.cursor)

/-- The document with the cursor on the first character of a literal. -/
def goTo (d : Document) (l : Literal) : Document := d.moveTo l.start

example :
    (afterCursor? (Document.ofText "7 8".toList)).map (Option.map (·.value)) = .ok (some 8) := by
  decide +kernel
example :
    (beforeCursor? (Document.ofText "7 8".toList)).map (Option.map (·.value)) = .ok (some 8) := by
  decide +kernel

end Respell.Navigation
