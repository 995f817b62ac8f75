/-
  Respelling literals of a text in a base.

  1. **A request** is what the user asks for: a value, a base by its code, the spelling it was
     found under, and whether one literal is meant or all.  A request that names a span means that
     span, whatever stands there; else the literal at the cursor.

  2. **A policy** is a request resolved against a text: a base, a scope, a rule and an anchor, the
     literal that others are compared with, by spelling or by value.

  3. **The edits** of a policy.  One literal: its span is replaced by its value in the base.  All:
     every literal of the text that matches the anchor and that the guard allows is replaced.
     `cycleEdits` respells every literal without comparing and without a guard.

  Literals are read from left to right and each is written before the next is read, so the first
  number that cannot be converted decides how a pass fails.
-/
import Respell.Literal
import Respell.Edit
import Respell.Guard

namespace Respell

/-- How many literals a respelling is about. -/
inductive Scope where
  | single
  | all
  deriving DecidableEq, Repr

/-- How a literal is compared with the anchor. -/
inductive MatchRule where
  | spelling
  | value
  deriving DecidableEq, Repr

namespace MatchRule

/-- The word for a rule. -/
def word : MatchRule → String
  | spelling => "exact"
  | value => "equivalent"

end MatchRule

/-- What a user asks to be respelled. -/
structure Request where
  value : Int
  code : String
  spelling : Text
  span : Option (Int × Int)
  all : Bool
  equivalent : Bool
  deriving DecidableEq, Repr

/-- The literal that a respelling starts from; its span may be any two offsets. -/
structure Anchor where
  spelling : Text
  start : Int
  stop : Int
  value : Nat
  deriving DecidableEq, Repr

/-- What is respelled, and in which base. -/
structure Policy where
  base : Base
  scope : Scope
  rule : MatchRule
  anchor : Anchor
  deriving DecidableEq, Repr

/-- Why a request is refused. -/
inductive RequestError where
  | negativeValue
  | base (e : Base.NameError)
  deriving DecidableEq, Repr

namespace RequestError

/-- What is said about a request that is refused. -/
def message : RequestError → String
  | negativeValue => "Value must not be negative"
  | base e => e.message

end RequestError

/-- Why a respelling fails: its request, a number in the text, or the place of an edit. -/
inductive RespellingError where
  | request (e : RequestError)
  | numeral (e : NumeralError)
  | edit (e : EditError)
  deriving DecidableEq, Repr

namespace RespellingError

/-- What is said about a respelling that fails. -/
def message : RespellingError → String
  | request e => e.message
  | numeral e => e.message
  | edit e => e.message

end RespellingError

/-! ## From a request to a policy -/

namespace Request

/-- The rule that a request asks for. -/
def rule (r : Request) : MatchRule := if r.equivalent then .value else .spelling

/-- The policy for a request without a span: the literal at the cursor, with the request's value. -/
def policyAt (r : Request) (base : Base) (value : Nat) (t : Text) :
    Option Int → Except RespellingError (Option Policy)
  | none => .ok none
  | some cursor =>
    match Literal.at? t cursor with
    | .error e => .error (.numeral e)
    | .ok none => .ok none
    | .ok (some l) => .ok (some ⟨base, .single, r.rule, ⟨l.spelling, l.start, l.stop, value⟩⟩)

/-- The policy that a request means in a text; `none` if it asks for a literal that is not there. -/
def policy (r : Request) (t : Text) (cursor : Option Int) :
    Except RespellingError (Option Policy) :=
  match r.value with
  | .negSucc _ => .error (.request .negativeValue)
  | .ofNat value =>
    match Base.ofCode r.code with
    | .error e => .error (.request (.base e))
    | .ok base =>
      if r.all then
        .ok (some ⟨base, .all, r.rule, ⟨r.spelling, 0, r.spelling.length, value⟩⟩)
      else
        match r.span with
        | some (start, stop) => .ok (some ⟨base, .single, r.rule, ⟨r.spelling, start, stop, value⟩⟩)
        | none => r.policyAt base value t cursor

end Request

/-! ## From a policy to edits -/

namespace Literal

/-- The edit that writes a literal in a base. -/
def respell (b : Base) (l : Literal) : Except NumeralError Edit :=
  (Numeral.write b l.value).map fun s => ⟨l.start, l.stop, s⟩

end Literal

namespace Policy

/-- Whether a literal is one that the policy is about. -/
def isAbout (p : Policy) (l : Literal) : Bool :=
  match p.rule with
  | .value => l.value = p.anchor.value
  | .spelling => l.spelling = p.anchor.spelling

/-- What becomes of one literal, as no edit or one. -/
def editOf (p : Policy) (g : Guard) (t : Text) (l : Literal) : Except NumeralError (List Edit) :=
  if p.isAbout l && g.allows t l.start then (l.respell p.base).map ([·]) else .ok []

/-- The edits of a policy in the order of the text. -/
def edits (p : Policy) (g : Guard) (t : Text) : Except NumeralError (List Edit) :=
  match p.scope with
  | .single =>
    (Numeral.write p.base p.anchor.value).map fun s => [⟨p.anchor.start, p.anchor.stop, s⟩]
  | .all =>
    (allOf ((Literal.readAll t).map (·.bind (p.editOf g t)))).map List.flatten

/-- The keyword that keeps a literal which the policy is about, as no note or one. -/
def notesOf (p : Policy) (g : Guard) (t : Text) (l : Literal) : List Note :=
  if p.isAbout l then ((g.blocking? t l.start).map (Guard.note l.start)).toList else []

/-- The literals up to the one at which a pass fails, that one included. -/
def reached (p : Policy) (g : Guard) (t : Text) : List (Except NumeralError Literal) → List Literal
  | .ok l :: rest =>
    match p.editOf g t l with
    | .ok _ => l :: reached p g t rest
    | .error _ => [l]
  | _ => []

/-- What is noted while the edits of a policy are made. -/
def notes (p : Policy) (g : Guard) (t : Text) : List Note :=
  match p.scope with
  | .single => []
  | .all =>
    (p.reached g t (Literal.readAll t)).flatMap (p.notesOf g t) ++
      match p.edits g t with
      | .error _ => []
      | .ok es =>
        [⟨.debug, "hexmate.core.rewrite", "Rewrite of " ++
          String.ofList (Text.quoted p.anchor.spelling) ++ " (" ++ p.rule.word ++ ") matched " ++
          toString es.length ++ " literals"⟩]

end Policy

/-- The edits that write every literal of a text in a base. -/
def cycleEdits (b : Base) (t : Text) : Except NumeralError (List Edit) :=
  allOf ((Literal.readAll t).map (·.bind (Literal.respell b)))

example : cycleEdits .hex ['1', ' ', '1', '0'] =
    .ok [⟨0, 1, ['0', 'x', '1']⟩, ⟨2, 4, ['0', 'x', 'A']⟩] := by
  decide +kernel

end Respell
