/-
  Registers: named bits of a 32-bit word.

  A register gives labels to bit numbers, which may be any integers.  `describe` tells of each
  labelled bit, in ascending order, whether it is set in the low 32 bits of a value; a bit number
  outside 0 to 31 is never set.
-/
import Respell.Sort
import Respell.Table
import Respell.View

namespace Respell

/-- The name of a bit and, perhaps, what it is for. -/
structure BitLabel where
  label : String
  doc : Option String
  deriving DecidableEq, Repr, Inhabited

/-- The labelled bits of one register. -/
abbrev Register := Table Int BitLabel

/-- Registers by name. -/
abbrev Registers := Table String Register

/-- A labelled bit and whether it is set. -/
structure BitState where
  bit : Int
  label : String
  doc : Option String
  isSet : Bool
  deriving DecidableEq, Repr

namespace Register

/-- The bits of a register in ascending order. -/
def sorted (r : Register) : Register := sortBy (fun a b => a.1 ≤ b.1) r

theorem trans_byBit (a b c : Int × BitLabel) (hab : decide (a.1 ≤ b.1)) (hbc : decide (b.1 ≤ c.1)) :
    decide (a.1 ≤ c.1) := by
  simp only [decide_eq_true_eq] at *
  exact Int.le_trans hab hbc

theorem total_byBit (a b : Int × BitLabel) : decide (a.1 ≤ b.1) || decide (b.1 ≤ a.1) := by
  simp only [Bool.or_eq_true, decide_eq_true_eq]
  exact Int.le_total a.1 b.1

theorem sorted_eq_mergeSort (r : Register) : sorted r = r.mergeSort fun a b => a.1 ≤ b.1 :=
  sortBy_eq_mergeSort trans_byBit total_byBit r

theorem sorted_perm (r : Register) : (sorted r).Perm r :=
  sorted_eq_mergeSort r ▸ List.mergeSort_perm r _

/-- Whether a bit is set in the low 32 bits of a value. -/
def isSet (v bit : Int) : Bool := 0 ≤ bit && bit < 32 && (View.word v >>> bit.toNat) % 2 = 1

example : isSet 5 2 = true ∧ isSet 5 1 = false ∧ isSet (-1) 31 = true := by decide
example : isSet (-1) 32 = false ∧ isSet (-1) (-1) = false := by decide

/-- The bits of a register, ascending, as a value has them. -/
def describe (v : Int) (r : Register) : List BitState :=
  (sorted r).map fun e => ⟨e.1, e.2.label, e.2.doc, isSet v e.1⟩

end Register

namespace Registers

/-- All registers, in their order, as a value has them. -/
def describe (v : Int) (rs : Registers) : List (String × List BitState) :=
  rs.map fun e => (e.1, Register.describe v e.2)

end Registers

end Respell
