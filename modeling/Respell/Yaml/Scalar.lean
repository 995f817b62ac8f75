/-
  Values that are no collections.

  1. **Keys.**  Only such a value can be a key.  Keys are compared by value: an integer, a real
     number and a truth value are one key if they are the same number, true being one and false
     zero.  What is no number has no value; two of these are one key if they are one thing.

  2. **Text.**  A value can be shown as text, in the way of a listing: texts inside a collection are
     quoted, one that stands alone is not.  How many texts can be made one inside another is
     limited; a moment needs room for its zone.

  Like all modules under `Respell.Yaml`, this one stands for a library (see `Respell.Yaml.Read`).
-/
import Respell.Binary64
import Respell.Calendar
import Respell.Text.Quoted
import Respell.Outcome

namespace Respell.Yaml

/-- Why a value has no text. -/
inductive TextError where
  /-- A number in it has none. -/
  | numeral (e : NumeralError)
  /-- Values stand too deep in one another. -/
  | tooDeep
  deriving DecidableEq, Repr

/-- A value that is no collection. -/
inductive Scalar where
  | null
  | bool (b : Bool)
  | int (i : Int)
  | real (x : Binary64)
  /-- The result of arithmetic that has none, with the place where it arose; those that are written
  by their mark are all one, and have none. -/
  | noNumber (origin : Option Nat)
  | bytes (bs : List UInt8)
  | text (t : Text)
  | date (d : Date)
  | moment (m : Moment)
  deriving DecidableEq, Repr

namespace Scalar

/-- A real number that arises at a place as a value. -/
def ofReal (origin : Nat) : Binary64 → Scalar
  | .nan => noNumber (some origin)
  | x => real x

/-! ## Keys -/

/-- The integer that a scalar is equal to, real numbers apart. -/
def integer? : Scalar → Option Int
  | bool b => some (if b then 1 else 0)
  | int i => some i
  | _ => none

/-- Whether two scalars are one key. -/
def same (a b : Scalar) : Bool :=
  match a, b with
  | real x, real y => x.same y
  | real x, b => (b.integer?.map x.equalsInt).getD false
  | a, real y => (a.integer?.map y.equalsInt).getD false
  | moment m, moment n => m.same n
  | a, b =>
    match a.integer?, b.integer? with
    | some i, some j => i = j
    | none, none => a = b
    | _, _ => false

example : same (.int 1) (.bool true) = true ∧ same (.int 1) (.text ['1']) = false := by decide
example : same (.real (.ofInt 1)) (.bool true) = true := by decide +kernel
example : same (.noNumber none) (.noNumber none) = true ∧
    same (.noNumber (some 1)) (.noNumber (some 2)) = false := by decide

/-! ## Text -/

/-- The text of a truth value. -/
def boolText (b : Bool) : Text := if b then "True".toList else "False".toList

/-- A scalar as text, when it stands alone. -/
def shown : Scalar → Except NumeralError Text
  | null => .ok "None".toList
  | bool b => .ok (boolText b)
  | int i => Numeral.signed i
  | real x => .ok x.text
  | noNumber _ => .ok Binary64.nan.text
  | bytes bs => .ok (Text.quotedBytes bs)
  | text t => .ok t
  | date d => .ok d.text
  | moment m => .ok m.text

/-- A moment as a call that makes it. -/
def momentCall (m : Moment) : Text :=
  ("datetime.datetime(" ++ commaList m.numbers ++
    (match m.distance with
    | none => ""
    | some k => ", tzinfo=" ++ Moment.zoneText k) ++ ")").toList

/-- A scalar as text, inside a collection. -/
def listed : Scalar → Except NumeralError Text
  | text t => .ok (Text.quoted t)
  | date d => .ok ("datetime.date(" ++ commaList d.numbers ++ ")").toList
  | moment m => .ok (momentCall m)
  | s => s.shown

/-- How many texts are made one inside another within the text of a scalar in a collection: for the
zone of a moment, and for the distance of the zone. -/
def layersInside : Scalar → Nat
  | moment m =>
    match m.distance with
    | none => 0
    | some k => if k = 0 then 1 else 2
  | _ => 0

/-- A scalar as text, inside a collection, where some number of texts can still be made one inside
another. -/
def listedWithin (s : Scalar) (room : Nat) : Except TextError Text :=
  if room ≤ s.layersInside then .error .tooDeep else s.listed.mapError .numeral

/-- Whether a scalar counts as something: neither nothing, nor false, nor zero, nor empty. -/
def isTruthy : Scalar → Bool
  | null => false
  | bool b => b
  | int i => i ≠ 0
  | real x => !x.isZero
  | bytes bs => !bs.isEmpty
  | text t => !t.isEmpty
  | _ => true

end Scalar

end Respell.Yaml
