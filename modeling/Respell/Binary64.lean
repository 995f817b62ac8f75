/-
  Binary floating point numbers of 64 bits, as exact values.

  1. **Values.**  The smallest positive number is 2⁻¹⁰⁷⁴ and every finite number is a multiple of
     it.  So a finite number is a sign and a natural number of these units, and arithmetic on it is
     arithmetic of integers that is rounded once at the end.

  2. **Rounding.**  A quotient of units goes to the nearest number that 53 significant bits can
     write, and one halfway between two such numbers to the one whose last bit is zero.  What would
     need an exponent beyond the range becomes infinite.

  3. **Text.**  A number is written with the fewest significant digits that are read as the number
     itself, and of those with the nearest ones.  The point stands inside or beside the digits from
     10⁻⁴ up to below 10¹⁶; outside of that an exponent follows.
-/
import Respell.Numeral

namespace Respell

/-- A floating point number; a finite one is a sign and a multiple of 2⁻¹⁰⁷⁴. -/
inductive Binary64 where
  | nan
  | infinite (negative : Bool)
  | finite (negative : Bool) (units : Nat)
  deriving DecidableEq, Repr

namespace Binary64

/-- The number of units in one. -/
def one : Nat := Nat.pow 2 1074

/-- The least number of units that is too great to be finite. -/
def bound : Nat := Nat.pow 2 2098

/-! ## Rounding -/

/-- The integer nearest to a quotient, the even one of two that are equally near. -/
def roundDiv (num den : Nat) : Nat :=
  let q := num / den
  let r := num % den
  if 2 * r < den then q else if den < 2 * r then q + 1 else q + q % 2

example : roundDiv 5 2 = 2 ∧ roundDiv 7 2 = 4 ∧ roundDiv 8 3 = 3 := by decide

/-- The distance between neighbours that 53 bits can write, from a number of units on. -/
def spacing (units : Nat) : Nat :=
  if units < Nat.pow 2 53 then 1 else Nat.pow 2 (units.log2 - 52)

/-- A sign and a number of units as a number, infinite if there are too many. -/
def ofUnits (negative : Bool) (units : Nat) : Binary64 :=
  if bound ≤ units then infinite negative else finite negative units

/-- The number nearest to a quotient of units. -/
def nearest (negative : Bool) (num den : Nat) : Binary64 :=
  let s := spacing (num / den)
  ofUnits negative (roundDiv num (den * s) * s)

/-- The number nearest to an integer. -/
def ofInt (i : Int) : Binary64 := nearest (i < 0) (i.natAbs * one) 1

/-- The number nearest to `digits · 10 ^ exponent`. -/
def ofDecimal (negative : Bool) (digits : Nat) (exponent : Int) : Binary64 :=
  let size := (Numeral.digitsText 10 digits).length + exponent
  if digits = 0 ∨ size < -400 then finite negative 0
  else if 400 < size then infinite negative
  else if 0 ≤ exponent then nearest negative (digits * Nat.pow 10 exponent.toNat * one) 1
  else nearest negative (digits * one) (Nat.pow 10 (-exponent).toNat)

/-! ## Arithmetic -/

/-- The integer part of a number, towards zero; none if it is not finite. -/
def truncated : Binary64 → Option Int
  | finite false u => some (u / one)
  | finite true u => some (-(u / one : Nat))
  | _ => none

/-- The number of units with its sign. -/
def signedUnits (negative : Bool) (units : Nat) : Int := if negative then -units else units

/-- A number with the other sign. -/
def neg : Binary64 → Binary64
  | nan => nan
  | infinite s => infinite (!s)
  | finite s u => finite (!s) u

/-- The sum of two numbers. -/
def add : Binary64 → Binary64 → Binary64
  | nan, _ => nan
  | _, nan => nan
  | infinite s, infinite t => if s = t then infinite s else nan
  | infinite s, _ => infinite s
  | _, infinite t => infinite t
  | finite s u, finite t v =>
    let sum := signedUnits s u + signedUnits t v
    if sum = 0 then finite (s && t) 0 else nearest (sum < 0) sum.natAbs 1

/-- The difference of two numbers. -/
def sub (x y : Binary64) : Binary64 := x.add y.neg

/-- The product of two numbers. -/
def mul : Binary64 → Binary64 → Binary64
  | nan, _ => nan
  | _, nan => nan
  | infinite s, infinite t => infinite (s != t)
  | infinite s, finite t v => if v = 0 then nan else infinite (s != t)
  | finite s u, infinite t => if u = 0 then nan else infinite (s != t)
  | finite s u, finite t v => nearest (s != t) (u * v) one

/-- Whether a number is zero, of either sign. -/
def isZero : Binary64 → Bool
  | finite _ 0 => true
  | _ => false

/-- Whether a number is below another; what is no number is neither below nor above one. -/
def isBelow : Binary64 → Binary64 → Bool
  | nan, _ => false
  | _, nan => false
  | infinite s, infinite t => s && !t
  | infinite s, finite _ _ => s
  | finite _ _, infinite t => !t
  | finite s u, finite t v => signedUnits s u < signedUnits t v

/-- Whether a number is an integer. -/
def equalsInt (x : Binary64) (i : Int) : Bool :=
  match x with
  | finite s u => signedUnits s u = i * one
  | _ => false

/-- Whether two numbers are one value; zero has one value, and what is no number is itself. -/
def same (x y : Binary64) : Bool := x = y || (x.isZero && y.isZero)

/-! ## Text -/

/-- The decimal exponent of a number below one: how many zeros follow the point. -/
def leadingZeros : Nat → Nat → Nat
  | 0, _ => 0
  | fuel + 1, u => if one ≤ 10 * u then 0 else leadingZeros fuel (10 * u) + 1

/-- The place of the point: the number is below ten to this power, and not below a tenth of that. -/
def pointPlace (u : Nat) : Int :=
  if one ≤ u then (Numeral.digitsText 10 (u / one)).length else -(leadingZeros 400 u : Nat)

/-- Two natural numbers with the quotient `d · 10 ^ e` units-wise: the first over the second. -/
def scaled (d : Nat) (e : Int) : Nat × Nat :=
  if 0 ≤ e then (d * Nat.pow 10 e.toNat * one, 1) else (d * one, Nat.pow 10 (-e).toNat)

/-- Whether `d · 10 ^ e` is read as the number with `u` units. -/
def readsAs (u d : Nat) (e : Int) : Bool :=
  nearest false (scaled d e).1 (scaled d e).2 = finite false u

/-- The distance of `d · 10 ^ e` from a number of units, as a quotient. -/
def distance (u d : Nat) (e : Int) : Nat × Nat :=
  let q := scaled d e
  ((q.1 - u * q.2) + (u * q.2 - q.1), q.2)

/-- The digits of `u` units at the place `e`, if one of the two nearest numbers there reads back. -/
def digitsAt? (u : Nat) (e : Int) : Option Nat :=
  let d :=
    if 0 ≤ e then u / (one * Nat.pow 10 e.toNat) else u * Nat.pow 10 (-e).toNat / one
  match readsAs u d e, readsAs u (d + 1) e with
  | false, false => none
  | true, false => some d
  | false, true => some (d + 1)
  | true, true =>
    let lo := (distance u d e).1
    let hi := (distance u (d + 1) e).1
    some (if lo < hi ∨ (lo = hi ∧ d % 2 = 0) then d else d + 1)

/-- The fewest digits, with the place of the last one, that read back; `n` more are tried. -/
def shortest (u : Nat) : Nat → Int → Nat × Int
  | 0, e => ((digitsAt? u e).getD 0, e)
  | n + 1, e =>
    match digitsAt? u e with
    | some d => (d, e)
    | none => shortest u n (e - 1)

/-- A text without the zeros at its end. -/
def dropTrailingZeros (t : Text) : Text := (t.reverse.dropWhile (· = '0')).reverse

/-- An exponent: its sign and at least two digits. -/
def exponentText (e : Int) : Text :=
  'e' :: (if e < 0 then '-' else '+') :: Text.padLeft 2 '0' (Numeral.digitsText 10 e.natAbs)

/-- Digits with a point at a place, or with an exponent. -/
def placed (ds : Text) (p : Int) : Text :=
  if -4 < p ∧ p ≤ 16 then
    if p ≤ 0 then '0' :: '.' :: List.replicate (-p).toNat '0' ++ ds
    else if ds.length ≤ p.toNat then ds ++ List.replicate (p.toNat - ds.length) '0' ++ ['.', '0']
    else ds.take p.toNat ++ '.' :: ds.drop p.toNat
  else
    ds.take 1 ++ (if ds.length ≤ 1 then [] else '.' :: ds.drop 1) ++ exponentText (p - 1)

/-- The text of a finite number without its sign. -/
def unitsText (u : Nat) : Text :=
  if u = 0 then ['0', '.', '0']
  else
    let (d, e) := shortest u 16 (pointPlace u - 1)
    let ds := Numeral.digitsText 10 d
    placed (dropTrailingZeros ds) (ds.length + e)

/-- The text of a number. -/
def text : Binary64 → Text
  | nan => ['n', 'a', 'n']
  | infinite s => (if s then ['-'] else []) ++ ['i', 'n', 'f']
  | finite s u => (if s then ['-'] else []) ++ unitsText u

end Binary64

end Respell
