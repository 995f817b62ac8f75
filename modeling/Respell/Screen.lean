/-
  What is drawn on a screen.

  1. **Windows** are rectangles.  Rows and columns count from zero at the top left corner of each.

  2. **Calls** are what is done to a window.  A text is cut at the right edge of its window and left
     out below it; a single character outside is left out.

  3. **Drawings** are calls in order.  A drawing can be broken off by a failure, and then nothing is
     drawn after it.

  4. **Groups.**  A drawing is told in groups of calls to one window; a group ends when that window
     is cleared or another one is drawn in.
-/
import Respell.Failure

namespace Respell

/-- A rectangle of the screen. -/
structure Window where
  height : Int
  width : Int
  top : Int
  left : Int
  deriving DecidableEq, Repr

/-- How characters look: a pair of colours and three marks. -/
structure Attribute where
  colour : Nat
  bold : Bool
  dim : Bool
  reversed : Bool
  deriving DecidableEq, Repr

/-- Something that is done to a window. -/
inductive Call where
  | clear
  | text (row column : Int) (t : Text) (a : Attribute)
  | char (row column : Int) (c : Char) (a : Attribute)
  /-- A horizontal line of a length. -/
  | rule (row column length : Int)
  | switchOn (a : Attribute)
  | switchOff (a : Attribute)
  /-- A frame around the window. -/
  | box
  deriving DecidableEq, Repr

/-- A call and the window it is made to. -/
abbrev Draw := Window × Call

/-- Calls in order, and the failure that broke them off. -/
structure Drawing where
  draws : List Draw
  failure : Option Failure
  deriving DecidableEq, Repr

namespace Attribute

/-- A pair of colours without marks. -/
def plain (colour : Nat) : Attribute := ⟨colour, false, false, false⟩

end Attribute

namespace Drawing

/-- Calls that nothing breaks off. -/
def ofDraws (ds : List Draw) : Drawing := ⟨ds, none⟩

/-- A failure before anything is drawn. -/
def failed (e : Failure) : Drawing := ⟨[], some e⟩

/-- One drawing and, unless it is broken off, another. -/
def followedBy (a b : Drawing) : Drawing :=
  match a.failure with
  | none => ⟨a.draws ++ b.draws, b.failure⟩
  | some _ => a

/-- Drawings one after the other. -/
def all : List Drawing → Drawing
  | [] => ofDraws []
  | d :: ds => d.followedBy (all ds)

end Drawing

namespace Window

/-- A text in a window, cut at its right edge. -/
def put (w : Window) (row column : Int) (t : Text) (a : Attribute) : List Draw :=
  if w.height ≤ row ∨ w.width ≤ column then []
  else [(w, .text row column (t.take (w.width - column).toNat) a)]

/-- A character in a window, if it is inside. -/
def putChar (w : Window) (row column : Int) (c : Char) (a : Attribute) : List Draw :=
  if 0 ≤ row ∧ row < w.height ∧ 0 ≤ column ∧ column < w.width then [(w, .char row column c a)]
  else []

end Window

/-- The calls to one window between two clearings. -/
structure Group where
  window : Window
  calls : List Call
  deriving DecidableEq, Repr

namespace Group

/-- The groups of some calls, the newest first, each with its newest call first. -/
def extend (gs : List Group) (d : Draw) : List Group :=
  match d.2, gs with
  | .clear, gs => ⟨d.1, []⟩ :: gs
  | c, [] => [⟨d.1, [c]⟩]
  | c, g :: rest =>
    if g.window = d.1 then { g with calls := c :: g.calls } :: rest
    else ⟨d.1, [c]⟩ :: g :: rest

/-- The groups of a list of calls. -/
def ofDraws (ds : List Draw) : List Group :=
  ((ds.foldl extend []).map fun g => { g with calls := g.calls.reverse }).reverse

end Group

end Respell
