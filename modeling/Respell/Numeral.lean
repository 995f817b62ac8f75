/-
  Numbers and their digits.

  1. **Positional value.**  `ofDigits r ds` is what the digits `ds`, most significant first, are
     worth in radix `r`; `digits r n` is the shortest list of digits worth `n`, with `[0]` for zero.
     `ofDigits_digits` is the law that ties them together.

  2. **Reading.**  `read` takes the four written forms, a marker in either case and one or more
     digits of its base, or a bare run of decimal digits; any other text is no numeral (`none`).

  3. **Writing.**  `write` puts the marker of a base in front of the digits, upper case.  A negative
     number has no written form.

  4. **The limit.**  Text and number are converted in decimal up to 4300 digits, leading zeros
     counted.  The other three radices are powers of two and have no limit.
-/
import Respell.Outcome
import Respell.Base
import Respell.Text.Blank

namespace Respell

/-! ## Digits -/

/-- The digit of a number below sixteen, upper case. -/
def digitChar (d : Nat) : Char := if d < 10 then Char.ofNat (48 + d) else Char.ofNat (55 + d)

/-- What a character is worth as a hexadecimal digit. -/
def digitValue? (c : Char) : Option Nat :=
  if '0' ≤ c ∧ c ≤ '9' then some (c.toNat - 48)
  else if 'a' ≤ c ∧ c ≤ 'f' then some (c.toNat - 87)
  else if 'A' ≤ c ∧ c ≤ 'F' then some (c.toNat - 55)
  else none

example : digitValue? '7' = some 7 ∧ digitValue? 'b' = some 11 ∧ digitValue? 'F' = some 15 := by
  decide

/-- Whether a character is a digit of a base. -/
def Base.hasDigit (b : Base) (c : Char) : Bool :=
  match digitValue? c with
  | some d => d < b.radix
  | none => false

example : Base.octal.hasDigit '7' = true ∧ Base.octal.hasDigit '8' = false := by decide
example : Base.decimal.hasDigit 'a' = false ∧ Base.hex.hasDigit 'a' = true := by decide

/-- What a list of digits, most significant first, is worth. -/
def ofDigits (radix : Nat) (ds : List Nat) : Nat := ds.foldl (fun n d => n * radix + d) 0

/-- The digits of `n` in front of the digits `ds`. -/
def digitsOnto (radix n : Nat) (ds : List Nat) : List Nat :=
  if _h : n < radix ∨ radix < 2 then n :: ds
  else digitsOnto radix (n / radix) (n % radix :: ds)
termination_by n
decreasing_by exact Nat.div_lt_self (by omega) (by omega)

/-- The shortest list of digits, most significant first, that is worth `n`. -/
def digits (radix n : Nat) : List Nat := digitsOnto radix n []

example : digits 10 255 = [2, 5, 5] ∧ digits 2 6 = [1, 1, 0] ∧ digits 16 0 = [0] := by
  decide +kernel

theorem foldl_digitsOnto (radix n : Nat) (ds : List Nat) :
    (digitsOnto radix n ds).foldl (fun n d => n * radix + d) 0 =
      ds.foldl (fun n d => n * radix + d) n := by
  fun_induction digitsOnto radix n ds with
  | case1 n ds h => simp
  | case2 n ds h ih =>
    rw [ih, List.foldl_cons, Nat.mul_comm, Nat.div_add_mod]

/-- The digits of a number are worth the number. -/
theorem ofDigits_digits (radix n : Nat) : ofDigits radix (digits radix n) = n := by
  simp [ofDigits, digits, foldl_digitsOnto]

/-! ## What can go wrong -/

/-- Why a number has no text or a text no number. -/
inductive NumeralError where
  /-- There is no written form below zero. -/
  | negative
  /-- A decimal text has more digits than the limit; their number is kept. -/
  | tooLongToRead (digits : Nat)
  /-- A number has more decimal digits than the limit. -/
  | tooLongToWrite
  deriving DecidableEq, Repr

/-- The greatest number of decimal digits that are converted. -/
def digitLimit : Nat := 4300

namespace NumeralError

/-- What is said about a conversion that fails. -/
def message : NumeralError → String
  | negative => "Negative values have no literal form"
  | tooLongToRead n =>
    "Exceeds the limit (4300 digits) for integer string conversion: value has " ++ toString n ++
      " digits; use sys.set_int_max_str_digits() to increase the limit"
  | tooLongToWrite =>
    "Exceeds the limit (4300 digits) for integer string conversion; " ++
      "use sys.set_int_max_str_digits() to increase the limit"

end NumeralError

namespace Numeral

/-! ## Reading -/

/-- The base whose marker ends in a letter. -/
def markedBase? (c : Char) : Option Base :=
  if c = 'x' ∨ c = 'X' then some .hex
  else if c = 'b' ∨ c = 'B' then some .binary
  else if c = 'o' ∨ c = 'O' then some .octal
  else none

/-- What a run of digits is worth. -/
def valueOf (b : Base) (ds : Text) : Nat := ofDigits b.radix (ds.filterMap digitValue?)

/-- One or more digits of a base and nothing else. -/
def isRun (b : Base) (t : Text) : Bool := !t.isEmpty && t.all b.hasDigit

/-- The base that a text is written in by its first two characters, and the rest of the text. -/
def splitMarker (t : Text) : Base × Text :=
  match t with
  | '0' :: c :: ds =>
    match markedBase? c with
    | some b => (b, ds)
    | none => (.decimal, t)
  | _ => (.decimal, t)

example : splitMarker ['0', 'X', 'f'] = (.hex, ['f']) := by decide
example : splitMarker ['0', '7'] = (.decimal, ['0', '7']) := by decide

/-- The number that a text writes; `none` if the text is not a numeral. -/
def read (t : Text) : Except NumeralError (Option Nat) :=
  let (b, ds) := splitMarker t
  if !isRun b ds then .ok none
  else if b = .decimal ∧ digitLimit < ds.length then .error (.tooLongToRead ds.length)
  else .ok (some (valueOf b ds))

example : read ['0', 'x', 'F', 'f'] = .ok (some 255) := by decide
example : read ['0', '0', '7'] = .ok (some 7) := by decide
example : read ['0', 'x'] = .ok none ∧ read ['-', '1'] = .ok none := by decide

/-- The number that a user typed, blanks around it left out; `none` if it is not a numeral. -/
def readInput (t : Text) : Except NumeralError (Option Nat) :=
  match Text.strip t with
  | [] => .ok none
  | s => read s

example : readInput [' ', '4', '2', ' '] = .ok (some 42) := by decide

/-! ## Writing -/

/-- The digits of a number as text, upper case. -/
def digitsText (radix n : Nat) : Text := (digits radix n).map digitChar

/-- The decimal digits of a number, up to the limit. -/
def decimalText (n : Nat) : Except NumeralError Text :=
  let ds := digitsText 10 n
  if digitLimit < ds.length then .error .tooLongToWrite else .ok ds

/-- A number written in a base. -/
def write (b : Base) : Int → Except NumeralError Text
  | .negSucc _ => .error .negative
  | .ofNat n =>
    match b with
    | .decimal => decimalText n
    | _ => .ok (b.marker ++ digitsText b.radix n)

example : write .hex 255 = .ok ['0', 'x', 'F', 'F'] := by decide +kernel
example : write .binary (-1) = .error .negative := by decide

/-- An integer as decimal text, with a sign below zero. -/
def signed : Int → Except NumeralError Text
  | .ofNat n => decimalText n
  | .negSucc n => (decimalText (n + 1)).map ('-' :: ·)

end Numeral

end Respell
