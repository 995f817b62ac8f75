/-
  Drawings as escape sequences of a terminal.

  Rows and columns of a terminal count from one.  A call sets the looks of its characters, goes to
  its place and writes; afterwards the looks are plain again, or those that the window has switched
  on.
-/
import Respell.Screen

namespace Respell.Ansi

/-- An escape sequence with a body. -/
def sequence (body : String) : String := "\x1b[" ++ body

/-- The number of the colour that a pair of colours has. -/
def colourNumber : Nat → Nat
  | 2 => 33
  | 3 => 90
  | 7 => 31
  | 10 => 90
  | 11 => 36
  | 12 => 33
  | 13 => 32
  | 14 => 36
  | 15 => 35
  | 16 => 31
  | 0 => 39
  | _ => 37

/-- The sequence for a look. -/
def looks (a : Attribute) : String :=
  sequence ("0;" ++ toString (colourNumber a.colour) ++ (if a.bold then ";1" else "") ++
    (if a.dim then ";2" else "") ++ (if a.reversed then ";7" else "") ++ "m")

/-- The plain look. -/
def plain : String := sequence "0m"

/-- The sequence that goes to a place in a window. -/
def goTo (w : Window) (row column : Int) : String :=
  sequence (toString (w.top + row + 1) ++ ";" ++ toString (w.left + column + 1) ++ "H")

/-- The same character a number of times. -/
def repeated (n : Int) (c : Char) : String := String.ofList (List.replicate n.toNat c)

/-- The rows of a window in order. -/
def rows (w : Window) : List Int := (List.range w.height.toNat).map Int.ofNat

/-- A window filled with blanks. -/
def blank (w : Window) : String :=
  String.join ((rows w).map fun r => goTo w r 0 ++ plain ++ repeated w.width ' ')

/-- A frame along the border of a window. -/
def border (w : Window) : String :=
  let rule := "+" ++ repeated (w.width - 2) '-' ++ "+"
  String.join ((rows w).map fun r =>
    if r = 0 ∨ r = w.height - 1 then goTo w r 0 ++ rule
    else goTo w r 0 ++ "|" ++ goTo w r (w.width - 1) ++ "|")

/-- A call to a window. -/
def call (w : Window) : Call → String
  | .clear => blank w
  | .text row column t a => goTo w row column ++ looks a ++ String.ofList t ++ plain
  | .char row column c a => goTo w row column ++ looks a ++ String.singleton c ++ plain
  | .rule row column length => goTo w row column ++ repeated length '-'
  | .switchOn a => looks a
  | .switchOff _ => plain
  | .box => border w

/-- Calls in order. -/
def picture (ds : List Draw) : String := String.join (ds.map fun d => call d.1 d.2)

/-- The sequence that clears the whole terminal. -/
def clearAll : String := plain ++ sequence "2J" ++ sequence "H"

end Respell.Ansi
