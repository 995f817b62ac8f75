/-
  Blank characters, and what is left of a text when they are taken off its ends.

  Blank is the white space of Unicode together with the four information separators U+001C to
  U+001F.  The list is short enough to be one range list.
-/
import Respell.Text
import Respell.Text.Range

namespace Respell.Text

/-- The blank characters, as ranges. -/
def blankRanges : List (Nat × Nat) :=
  [(0x9, 0xD), (0x1C, 0x20), (0x85, 0x85), (0xA0, 0xA0), (0x1680, 0x1680), (0x2000, 0x200A),
   (0x2028, 0x2029), (0x202F, 0x202F), (0x205F, 0x205F), (0x3000, 0x3000)]

/-- Whether a character is blank. -/
def isBlank (c : Char) : Bool := inRanges c.toNat blankRanges

example : isBlank ' ' = true ∧ isBlank '\n' = true ∧ isBlank '\u2028' = true := by decide
example : isBlank '\u200b' = false ∧ isBlank 'x' = false := by decide

/-- The part of a text that begins at its first character that is not blank. -/
def dropBlank (t : Text) : Text := t.dropWhile isBlank

/-- A text without the blanks at its two ends. -/
def strip (t : Text) : Text := (dropBlank (dropBlank t).reverse).reverse

example : strip [' ', 'a', ' ', 'b', '\n'] = ['a', ' ', 'b'] := by decide

end Respell.Text
