/-
  The four bases a number can be written in.

  Each base has a radix, a code of three letters by which the user names it, a marker that stands in
  front of its digits, and a title for display.  The order decimal, hex, binary, octal is a cycle:
  `next` goes once round it, which is how the display mode of the editor moves.
-/
import Respell.Text
import Respell.Text.Quoted

namespace Respell

/-- A base in which numbers are written. -/
inductive Base where
  | decimal
  | hex
  | binary
  | octal
  deriving DecidableEq, Repr, Inhabited

namespace Base

/-- The bases in their cyclic order. -/
def all : List Base := [decimal, hex, binary, octal]

/-- The number of digits of a base. -/
def radix : Base → Nat
  | decimal => 10
  | hex => 16
  | binary => 2
  | octal => 8

/-- The name of a base on the command line and in requests. -/
def code : Base → String
  | decimal => "dec"
  | hex => "hex"
  | binary => "bin"
  | octal => "oct"

/-- The name of a base on the screen. -/
def title : Base → String
  | decimal => "Decimal"
  | hex => "Hex"
  | binary => "Binary"
  | octal => "Octal"

/-- What is written in front of the digits of a base. -/
def marker : Base → Text
  | decimal => []
  | hex => ['0', 'x']
  | binary => ['0', 'b']
  | octal => ['0', 'o']

/-- The base after a base in the cycle. -/
def next : Base → Base
  | decimal => hex
  | hex => binary
  | binary => octal
  | octal => decimal

theorem one_lt_radix (b : Base) : 1 < b.radix := by cases b <;> decide

theorem radix_le_sixteen (b : Base) : b.radix ≤ 16 := by cases b <;> decide

/-! ## Names that the user gives -/

/-- A name that belongs to no base. -/
inductive NameError where
  | unknownCode (code : String)
  | unknownTitle (title : String)
  deriving DecidableEq, Repr

namespace NameError

/-- What is said about a name that belongs to no base. -/
def message : NameError → String
  | unknownCode c => "Unknown base code: " ++ quote c
  | unknownTitle t => quote t ++ " is not a valid DisplayMode"

end NameError

/-- The base with a code. -/
def ofCode (c : String) : Except NameError Base :=
  match all.find? (·.code == c) with
  | some b => .ok b
  | none => .error (.unknownCode c)

/-- The base with a title. -/
def ofTitle (t : String) : Except NameError Base :=
  match all.find? (·.title == t) with
  | some b => .ok b
  | none => .error (.unknownTitle t)

theorem ofCode_code (b : Base) : ofCode b.code = .ok b := by cases b <;> rfl

end Base

end Respell
