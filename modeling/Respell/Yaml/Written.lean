/-
  The values that the texts of scalars write.

  A scalar becomes a value by its type.  Its text may have been left to its form, and then it has
  the form of the type; or the type is declared, and then the text may be anything.  A text that
  does not write a value of the type is a fault of its own kind.

  Like all modules under `Respell.Yaml`, this one stands for a library (see `Respell.Yaml.Read`).
-/
import Respell.Yaml.Scalar
import Respell.Yaml.Implicit
import Respell.Yaml.Error
import Respell.Yaml.Cursor
import Respell.Numeral.Integer
import Respell.Text.Base64
import Respell.Text.Lower

namespace Respell.Yaml

/-- A text without underscores. -/
def withoutUnderscores (t : Text) : Text := t.filter (· ≠ '_')

/-- The integer that a text writes in a radix. -/
def integerOf (radix : Nat) (t : Text) : Except YamlError Int :=
  match Numeral.integer? radix t with
  | .error e => .error (.numeral e)
  | .ok none => .error (.noInteger radix t)
  | .ok (some i) => .ok i

/-- The integer with digits in base 60, the most significant first. -/
def sexagesimal (ds : List Int) : Int := ds.foldl (fun n d => n * 60 + d) 0

/-- The integer without its sign that a text writes in one of the forms of integers. -/
def magnitudeOf (t : Text) : Except YamlError Int :=
  match t with
  | ['0'] => .ok 0
  | '0' :: 'b' :: ds => integerOf 2 ds
  | '0' :: 'x' :: ds => integerOf 16 ds
  | '0' :: _ => integerOf 8 t
  | _ =>
    if t.contains ':' then (allOf ((Text.split ':' t).map (integerOf 10))).map sexagesimal
    else integerOf 10 t

/-- The integer that a scalar of that type writes. -/
def Scalar.readInt (t : Text) : Except YamlError Int :=
  match withoutUnderscores t with
  | [] => .error .emptyNumber
  | c :: r =>
    let t := if c = '-' ∨ c = '+' then r else c :: r
    if t.isEmpty then .error .emptyNumber
    else (magnitudeOf t).map fun i => if c = '-' then -i else i

/-- The exponent that a text writes behind its `e`; zero without one. -/
def exponentOf? : Text → Option Int
  | [] => some 0
  | 'e' :: r =>
    let (negative, ds) := Numeral.splitSign r
    if ds.isEmpty ∨ !ds.all Implicit.isDigit then none
    else
      let n : Int := Numeral.valueOf .decimal ds
      some (if negative then -n else n)
  | _ => none

/-- The real number that digits with a point and an exponent write, all in lower case. -/
def decimalOf? (negative : Bool) (t : Text) : Option Binary64 :=
  let whole := t.takeWhile Implicit.isDigit
  let rest := t.dropWhile Implicit.isDigit
  let (fraction, rest) :=
    match rest with
    | '.' :: r => (r.takeWhile Implicit.isDigit, r.dropWhile Implicit.isDigit)
    | r => ([], r)
  if whole.isEmpty ∧ fraction.isEmpty then none
  else
    (exponentOf? rest).map fun e =>
      .ofDecimal negative (Numeral.valueOf .decimal (whole ++ fraction)) (e - fraction.length)

/-- A decimal digit of any script as the ASCII digit of that value. -/
def asciiDigit (c : Char) : Char :=
  match Text.decimalValue? c with
  | some d => Char.ofNat ('0'.toNat + d)
  | none => c

/-- The real number that a text in lower case writes, in any of the ways that are known for one. -/
def realOf (t : Text) : Except YamlError Binary64 :=
  let (negative, ds) := Numeral.splitSign (Numeral.trimPadding (t.map asciiDigit))
  if ds = "inf".toList ∨ ds = "infinity".toList then .ok (.infinite negative)
  else if ds = "nan".toList then .ok .nan
  else
    match decimalOf? negative ds with
    | none => .error (.noReal t)
    | some x => .ok x

/-- The sum of real numbers in base 60, the least significant first; `base` is the next power, which
has to be a real number too. -/
def sexagesimalReal (base : Nat) : Binary64 → List Binary64 → Except YamlError Binary64
  | sum, [] => .ok sum
  | sum, d :: ds =>
    match Binary64.ofInt base with
    | .infinite _ => .error .hugeGroup
    | power => sexagesimalReal (base * 60) (sum.add (d.mul power)) ds

/-- The real number that a scalar of that type writes at a place. -/
def Scalar.readReal (place : Nat) (t : Text) : Except YamlError Scalar :=
  match Text.lower (withoutUnderscores t) with
  | [] => .error .emptyNumber
  | c :: r =>
    let t := if c = '-' ∨ c = '+' then r else c :: r
    let signed (x : Binary64) := Scalar.ofReal place (if c = '-' then x.neg else x)
    if t = ".inf".toList then .ok (signed (.infinite false))
    else if t = ".nan".toList then .ok (.noNumber none)
    else if t.contains ':' then do
      let ds ← allOf ((Text.split ':' t).map realOf)
      (sexagesimalReal 1 (.finite false 0) ds.reverse).map signed
    else (realOf t).map signed

/-- The number at the start of a text, and the text behind it. -/
def number (most : Nat) (t : Text) : Nat × Text :=
  let ds := (t.take most).takeWhile Implicit.isDigit
  (Numeral.valueOf .decimal ds, t.drop ds.length)

/-- The distance from universal time, in seconds, that a text writes. -/
def zoneOf (t : Text) : Option Int :=
  match t.dropWhile isSpace with
  | [] => none
  | ['Z'] => some 0
  | s :: r =>
    let (h, r) := number 2 r
    let (m, _) := number 2 (r.drop 1)
    let k : Int := h * 3600 + m * 60
    some (if s = '-' then -k else k)

/-- The microseconds that the digits behind a point write. -/
def microOf (ds : Text) : Nat :=
  let ds := ds.take 6
  Numeral.valueOf .decimal (ds ++ List.replicate (6 - ds.length) '0')

/-- The date or moment that a text in the form of one writes. -/
def dateOf (t : Text) : Except CalendarError Scalar :=
  let (y, r) := number 4 t
  let (mo, r) := number 2 (r.drop 1)
  let (d, r) := number 2 (r.drop 1)
  match r with
  | [] => (Date.make y mo d).map .date
  | _ =>
    let r := if r.head? = some 'T' ∨ r.head? = some 't' then r.drop 1 else r.dropWhile isSpace
    let (h, r) := number 2 r
    let (mi, r) := number 2 (r.drop 1)
    let (s, r) := number 2 (r.drop 1)
    let (fraction, r) :=
      match r with
      | '.' :: r => (r.takeWhile Implicit.isDigit, r.dropWhile Implicit.isDigit)
      | r => ([], r)
    (Moment.make y mo d h mi s (microOf fraction) (zoneOf r)).map .moment

/-- The date or moment that a scalar of that type writes; month and day may have one digit. -/
def Scalar.readDate (t : Text) : Except YamlError Scalar :=
  let t := Implicit.dropNewline t
  if Implicit.isDate 1 t then
    match dateOf t with
    | .ok s => .ok s
    | .error e => .error (.calendar e)
  else .error .noDate

/-- The truth value that a scalar of that type writes, in any mixture of small and capital
letters. -/
def Scalar.readBool (t : Text) : Except YamlError Scalar :=
  let word := Text.lower t
  if Implicit.trueWords.contains (String.ofList word) then .ok (.bool true)
  else if Implicit.falseWords.contains (String.ofList word) then .ok (.bool false)
  else .error (.noTruth word)

/-- The bytes that a scalar of that type writes, all in ASCII. -/
def Scalar.readBytes (t : Text) : Except YamlError Scalar :=
  if t.all fun c => c.toNat < 128 then
    match Text.Base64.decode t with
    | some bs => .ok (.bytes bs)
    | none => .error .malformed
  else .error .malformed

/-- The scalar of a type that a text writes at a place. -/
def Scalar.read (tag : Tag) (place : Nat) (t : Text) : Except YamlError Scalar :=
  match tag with
  | .null => .ok .null
  | .text => .ok (.text t)
  | .int => (readInt t).map .int
  | .real => readReal place t
  | .bool => readBool t
  | .bytes => readBytes t
  | .date => readDate t
  | _ => .error .malformed

example : Scalar.read .int 0 "1:30".toList = .ok (.int 90) := by decide +kernel
example : Scalar.read .bool 0 "Maybe".toList = .error (.noTruth "maybe".toList) := by decide +kernel

end Respell.Yaml
