/-
  The values that a document can hold.

  1. **Values** are scalars and collections.  A collection is known by its place, and what is in it
     is kept in the document; so a collection may be in several others, and in itself.  Only a
     scalar can be a key, which the type says.

  2. **Mappings** have each key once: the first spelling of a key stays, with its place, and the
     last value.

  3. **Text.**  A value can be shown as text, in the way of a listing.  A collection that is met
     inside itself is not listed again; dots stand for it.  Only so many texts can be made one
     inside another, and a value that needs more has no text.

  Like all modules under `Respell.Yaml`, this one stands for a library (see `Respell.Yaml.Read`).
-/
import Respell.Yaml.Scalar

namespace Respell.Yaml

/-- A value: a scalar, or a collection by its place. -/
inductive Value where
  | scalar (s : Scalar)
  | collection (place : Nat)
  deriving DecidableEq, Repr

/-- What a collection holds. -/
inductive Collection where
  | list (vs : List Value)
  /-- A list whose members are pairs. -/
  | pairs (es : List (Value × Value))
  | set (ks : List Scalar)
  | mapping (es : List (Scalar × Value))
  deriving DecidableEq, Repr

/-- A value with all collections that it leads to, by their places. -/
structure Document where
  root : Value
  collections : Array Collection
  deriving DecidableEq, Repr

/-- Entries with one more, at the place of its key if that is there. -/
def Collection.put (es : List (Scalar × α)) (k : Scalar) (v : α) : List (Scalar × α) :=
  match es with
  | [] => [(k, v)]
  | (l, w) :: es => if l.same k then (l, v) :: es else (l, w) :: put es k v

namespace Document

/-! ## Contents -/

/-- The document that is nothing. -/
def empty : Document := ⟨.scalar .null, #[]⟩

/-- What a value holds, if it is a collection. -/
def content? (d : Document) : Value → Option Collection
  | .scalar _ => none
  | .collection p => d.collections[p]?

/-- The entries of a value, if it is a mapping. -/
def entries? (d : Document) (v : Value) : Option (List (Scalar × Value)) :=
  match d.content? v with
  | some (.mapping es) => some es
  | _ => none

/-- The value of a key that is a text. -/
def get? (es : List (Scalar × Value)) (key : String) : Option Value :=
  (es.find? fun e => e.1 = .text key.toList).map (·.2)

/-- Whether a value counts as something: no empty collection, and no scalar that is nothing. -/
def isTruthy (d : Document) (v : Value) : Bool :=
  match v, d.content? v with
  | .scalar s, _ => s.isTruthy
  | _, some (.list vs) => !vs.isEmpty
  | _, some (.pairs es) => !es.isEmpty
  | _, some (.set ks) => !ks.isEmpty
  | _, some (.mapping es) => !es.isEmpty
  | _, none => false

/-! ## Text -/

/-- Texts with commas between them, between two brackets. -/
def bracketed (left right : Char) (ts : List Text) : Text :=
  left :: Text.join [',', ' '] ts ++ [right]

/-- Two texts with something between them, of which the first failure counts. -/
def paired (between : Text) (a b : Except TextError Text) : Except TextError Text := do
  .ok ((← a) ++ between ++ (← b))

/-- A collection as text, by the texts of its members. -/
def textOf (listed : Value → Except TextError Text) : Collection → Except TextError Text
  | .list vs => (allOf (vs.map listed)).map (bracketed '[' ']')
  | .pairs es =>
    (allOf (es.map fun e => (paired [',', ' '] (listed e.1) (listed e.2)).map fun t =>
      '(' :: t ++ [')'])).map (bracketed '[' ']')
  | .set [] => .ok "set()".toList
  | .set ks => (allOf (ks.map fun k => listed (.scalar k))).map (bracketed '\x7b' '\x7d')
  | .mapping es =>
    (allOf (es.map fun e => paired [':', ' '] (listed (.scalar e.1)) (listed e.2))).map
      (bracketed '\x7b' '\x7d')

/-- What stands for a collection inside itself. -/
def ellipsis : Collection → Text
  | .list _ => "[...]".toList
  | .pairs _ => "[...]".toList
  | .set _ => "set(...)".toList
  | .mapping _ => "\x7b...\x7d".toList

/-- Whether the members of a collection stand in something that stands in it: a pair, or the list
that a set is made into for its text. -/
def isDouble : Collection → Bool
  | .list _ => false
  | .pairs _ => true
  | .set _ => true
  | .mapping _ => false

/-- A value as text, inside the collections at some places, where some number of texts can still be
made one inside another. -/
def listedWithin (d : Document) : Nat → List Nat → Value → Except TextError Text
  | n, _, .scalar s => s.listedWithin n
  | 0, _, .collection _ => .error .tooDeep
  | n + 1, around, .collection p =>
    match d.collections[p]? with
    | none => .ok []
    | some c =>
      if around.contains p then .ok (ellipsis c)
      else if isDouble c then
        match n with
        | 0 => textOf (fun _ => .error .tooDeep) c
        | n + 1 => textOf (d.listedWithin n (p :: around)) c
      else textOf (d.listedWithin n (p :: around)) c

/-- How many texts a collection takes up around those of its members. -/
def layers (c : Collection) : Nat := if isDouble c then 2 else 1

theorem layers_pos (c : Collection) : 0 < layers c := by
  cases c <;> exact Nat.succ_pos _

theorem listedWithin_scalar (d : Document) (n : Nat) (around : List Nat) (s : Scalar) :
    d.listedWithin n around (.scalar s) = s.listedWithin n := by
  cases n <;> rfl

theorem listedWithin_zero (d : Document) (around : List Nat) (v : Value) :
    d.listedWithin 0 around v = .error .tooDeep := by
  cases v with
  | scalar s =>
    rw [listedWithin_scalar, Scalar.listedWithin, if_pos (Nat.zero_le _)]
  | collection p => rfl

/-- **The text of a collection** is made of those of its members, for which there is less room. -/
theorem listedWithin_collection {d : Document} {around : List Nat} {p : Nat} {c : Collection}
    (hc : d.collections[p]? = some c) (hp : p ∉ around) (n : Nat) :
    d.listedWithin (n + 1) around (.collection p) =
      textOf (d.listedWithin (n + 1 - layers c) (p :: around)) c := by
  rw [listedWithin, hc]
  dsimp only
  rw [if_neg (by simpa using hp), layers]
  cases isDouble c with
  | false => rfl
  | true =>
    cases n with
    | zero =>
      have hfull : d.listedWithin 0 (p :: around) = fun _ => .error .tooDeep :=
        funext (d.listedWithin_zero (p :: around))
      exact congrArg (textOf · c) hfull.symm
    | succ n => rfl

/-- A value as text, when it stands alone, where some number of texts can be made one inside
another. -/
def shown (d : Document) (room : Nat) : Value → Except TextError Text
  | .scalar s => s.shown.mapError .numeral
  | v => d.listedWithin room [] v

example :
    shown ⟨.collection 0, #[.list [.scalar (.int 1), .scalar (.text ['a'])]]⟩ 2 (.collection 0) =
      .ok "[1, 'a']".toList := by decide +kernel
example : shown ⟨.collection 0, #[.mapping [(.text ['b'], .collection 0)]]⟩ 2 (.collection 0) =
    .ok "\x7b'b': \x7b...\x7d\x7d".toList := by decide +kernel
example :
    shown ⟨.collection 0, #[.list [.collection 1], .list [.scalar .null]]⟩ 2 (.collection 0) =
      .error .tooDeep := by decide +kernel

end Document

end Respell.Yaml
