/-
  Edits: replacements of parts of one text.

  1. **An edit set** is a list of edits whose offsets all refer to the text as it was.  It is put in
     order by start and then by end; edits at one place keep the order of the list.

  2. **Which sets are good.**  In that order every edit lies inside the text and none starts before
     the one in front of it has ended.  Touching edits and empty ones are good.

  3. **Applying** copies the text from left to right and writes a replacement for each edited part,
     so no offset has to be shifted.  A set that is not good changes nothing.
-/
import Respell.Text
import Respell.Outcome
import Respell.Sort

namespace Respell

/-- A replacement of the text between two offsets. -/
structure Edit where
  start : Int
  stop : Int
  replacement : Text
  deriving DecidableEq, Repr, Inhabited

/-- Why an edit set is refused, with the offsets of the edit that shows it. -/
inductive EditError where
  | outside (start stop : Int)
  | overlap (start stop : Int)
  deriving DecidableEq, Repr

namespace EditError

/-- What is said about an edit set that is refused. -/
def message : EditError → String
  | outside a b => "Edit " ++ toString a ++ ":" ++ toString b ++ " is outside the document"
  | overlap a b => "Edit " ++ toString a ++ ":" ++ toString b ++ " overlaps a previous edit"

end EditError

namespace Edit

/-- The order of edits: by start, then by end. -/
def le (a b : Edit) : Bool := a.start < b.start || (a.start == b.start && a.stop ≤ b.stop)

/-- An edit set in order. -/
def sorted (es : List Edit) : List Edit := sortBy le es

/-- Whether edits in order are good in a text of length `n`, all of it before `pos` being taken. -/
def checkFrom (n : Nat) (pos : Int) : List Edit → Except EditError Unit
  | [] => .ok ()
  | e :: es =>
    if e.start < 0 ∨ (n : Int) < e.stop ∨ e.stop < e.start then .error (.outside e.start e.stop)
    else if e.start < pos then .error (.overlap e.start e.stop)
    else checkFrom n e.stop es

/-- A good edit set in order, or why it is refused. -/
def check (t : Text) (es : List Edit) : Except EditError (List Edit) :=
  (checkFrom t.length 0 (sorted es)).map fun _ => sorted es

example : check ['a', 'b'] [⟨1, 2, ['Y']⟩, ⟨0, 1, ['X']⟩] = .ok [⟨0, 1, ['X']⟩, ⟨1, 2, ['Y']⟩] := by
  decide +kernel
example : check ['a'] [⟨0, 2, []⟩] = .error (.outside 0 2) := by decide +kernel
example : check ['a', 'b'] [⟨0, 2, []⟩, ⟨1, 2, []⟩] = .error (.overlap 1 2) := by decide +kernel

/-- The text that good edits in order make of `t`, which stands at offset `pos`. -/
def splice (pos : Int) (t : Text) : List Edit → Text
  | [] => t
  | e :: es =>
    t.take (e.start - pos).toNat ++ e.replacement ++ splice e.stop (t.drop (e.stop - pos).toNat) es

/-- The text that an edit set makes of a text, or why it is refused. -/
def applyAll (t : Text) (es : List Edit) : Except EditError Text := (check t es).map (splice 0 t)

example : applyAll ['a', 'b', 'c'] [⟨1, 2, ['X']⟩, ⟨1, 1, ['Y']⟩] = .ok ['a', 'Y', 'X', 'c'] := by
  decide +kernel

end Edit

end Respell
