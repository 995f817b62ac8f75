/-
  Integers as they are typed.

  A typed integer may have blanks around it, a sign, decimal digits of any script, and single
  underscores between digits.  In a radix that has a marker, the marker may stand in front of the
  digits.  Only the decimal radix has a limit on the number of digits.
-/
import Respell.Numeral
import Respell.Text.Word

namespace Respell.Numeral

/-- Whether a character counts as blank around a typed integer; information separators do not. -/
def isPadding (c : Char) : Bool := Text.isBlank c && !(0x1C ≤ c.toNat && c.toNat ≤ 0x1F)

/-- A text without padding at its two ends. -/
def trimPadding (t : Text) : Text := ((t.dropWhile isPadding).reverse.dropWhile isPadding).reverse

/-- What a character is worth as a digit, ASCII letters included. -/
def typedDigit? (c : Char) : Option Nat :=
  match digitValue? c with
  | some d => some d
  | none => Text.decimalValue? c

/-- The digits of a text in which single underscores may stand between digits; `fresh` says that a
digit has to come next. -/
def typedDigits? (radix : Nat) (fresh : Bool) : Text → Option (List Nat)
  | [] => if fresh then none else some []
  | '_' :: t => if fresh then none else typedDigits? radix true t
  | c :: t =>
    match typedDigit? c with
    | none => none
    | some d => if d < radix then (typedDigits? radix false t).map (d :: ·) else none

/-- A sign taken off the start of a text: whether it was a minus, and the rest. -/
def splitSign : Text → Bool × Text
  | '-' :: t => (true, t)
  | '+' :: t => (false, t)
  | t => (false, t)

/-- A text without the marker of a radix, and without one underscore behind it. -/
def dropMarker (radix : Nat) (t : Text) : Text :=
  match t with
  | '0' :: c :: ds =>
    match markedBase? c with
    | some b => if b.radix = radix then (if ds.head? = some '_' then ds.drop 1 else ds) else t
    | none => t
  | _ => t

/-- Whether a character can stand among digits of a radix. -/
def isPlace (radix : Nat) (c : Char) : Bool :=
  c = '_' ||
    match typedDigit? c with
    | some d => d < radix
    | none => false

/-- The integer that a text writes in a radix; none if it is not an integer.  The digits that come
first are counted before the rest is looked at. -/
def integer? (radix : Nat) (t : Text) : Except NumeralError (Option Int) :=
  let (negative, t) := splitSign (trimPadding t)
  let body := dropMarker radix t
  match typedDigits? radix true (body.takeWhile (isPlace radix)) with
  | none => .ok none
  | some ds =>
    if radix = 10 ∧ digitLimit < ds.length then .error (.tooLongToRead ds.length)
    else if !(body.dropWhile (isPlace radix)).isEmpty then .ok none
    else
      let n : Int := ofDigits radix ds
      .ok (some (if negative then -n else n))

example : integer? 10 " -1_0 ".toList = .ok (some (-10)) := by decide
example : integer? 10 "1__0".toList = .ok none := by decide
example : integer? 16 "0x1f".toList = .ok (some 31) := by decide
example : integer? 10 "0x1f".toList = .ok none := by decide
example : integer? 10 "".toList = .ok none ∧ integer? 10 "1x".toList = .ok none := by decide

/-- The integer that bytes write in ASCII; of blanks only those of ASCII count. -/
def integerOfBytes? (bs : List UInt8) : Except NumeralError (Option Int) :=
  if bs.all (· < 0x80) then integer? 10 (bs.map fun b => Char.ofNat b.toNat) else .ok none

example : integerOfBytes? [32, 49, 50] = .ok (some 12) := by decide

end Respell.Numeral
