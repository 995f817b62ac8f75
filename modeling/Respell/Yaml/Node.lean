/-
  The nodes that the tokens of a document make.

  Each function reads one part of the grammar from the front of the tokens and puts the nodes that
  it meets into the graph.  A collection has its place before its members are read, so an alias
  inside it may name it.  A name may be given once in a document.

  The first argument of a function bounds how deep and how far it goes; twice the number of tokens
  is more than is ever needed, since each step but the one into a node takes a token.  A fault among
  the tokens counts as soon as it is looked at.

  Like all modules under `Respell.Yaml`, this one stands for a library (see `Respell.Yaml.Read`).
-/
import Respell.Yaml.Token
import Respell.Yaml.Graph

namespace Respell.Yaml

namespace Tag

/-- The start of the names of all known types. -/
def family : String := "tag:yaml.org,2002:"

/-- The names of the types that scalars and collections may be declared to have. -/
def names : List (String × Tag) :=
  [("null", null), ("bool", bool), ("int", int), ("float", real), ("timestamp", date),
   ("str", text), ("merge", merge), ("value", defaultValue), ("seq", sequence), ("map", mapping),
   ("binary", bytes), ("set", set), ("omap", pairs), ("pairs", pairs)]

/-- The type with a full name. -/
def ofName (t : Text) : Tag :=
  ((names.find? fun e => t = (family ++ e.1).toList).map (·.2)).getD other

/-- The type of a scalar, declared or not; the lone exclamation mark leaves it to its form. -/
def ofScalar (declared : Option Text) (plain : Bool) (t : Text) : Tag :=
  match declared with
  | none => if plain then Implicit.tagOf t else text
  | some name => if name = ['!'] then Implicit.tagOf t else ofName name

/-- The type of a collection, declared or not. -/
def ofCollection (declared : Option Text) (usual : Tag) : Tag :=
  match declared with
  | none => usual
  | some name => if name = ['!'] then usual else ofName name

end Tag

/-- The tokens that are left, the nodes so far, the places of those that have names, and what
handles stand for. -/
structure Source where
  tokens : List Token
  graph : Graph
  anchors : List (Text × Nat)
  handles : List (Text × Text)

namespace Source

/-- The source with other tokens left. -/
def withTokens (s : Source) (ts : List Token) : Source := { s with tokens := ts }

/-- The failure of a text that goes on with a wrong token; a fault of the text comes first. -/
def refuse (s : Source) : Except YamlError α :=
  match s.tokens with
  | .fault e :: _ => .error e
  | _ => .error .malformed

/-- Something that was read from a source, and the source behind it. -/
abbrev Front (α : Type) := α × Source

/-- A new node, under a name if it has one, and its place. -/
def add (s : Source) (anchor : Option Text) (x : Node) : Front Nat :=
  let p := s.graph.size
  let anchors := match anchor with
    | none => s.anchors
    | some a => (a, p) :: s.anchors
  (p, { s with graph := s.graph.add x, anchors })

/-- The source with what a node holds. -/
def hold (s : Source) (p : Nat) (c : Content) : Source :=
  { s with graph := s.graph.set p ⟨s.graph.tagAt p, c⟩ }

/-- The node that is left out. -/
def absent (s : Source) : Front Nat := s.add none ⟨.null, .scalar []⟩

/-- The full name of a tag. -/
def tagName (s : Source) (t : TagName) : Except YamlError Text :=
  match t.handle with
  | none => .ok t.suffix
  | some h =>
    match s.handles.lookup h with
    | none => .error .malformed
    | some full => .ok (full ++ t.suffix)

/-- What stands in front of a node: a name and a declared type, in any order. -/
structure Properties where
  anchor : Option Text
  declared : Option Text

/-- The properties of the node that follows. -/
def properties (s : Source) : Except YamlError (Properties × Source) :=
  match s.tokens with
  | .anchor a :: .tag t :: ts => (s.tagName t).map fun n => (⟨some a, some n⟩, s.withTokens ts)
  | .anchor a :: ts => .ok (⟨some a, none⟩, s.withTokens ts)
  | .tag t :: .anchor a :: ts => (s.tagName t).map fun n => (⟨some a, some n⟩, s.withTokens ts)
  | .tag _ :: .fault e :: _ => .error e
  | .tag t :: ts => (s.tagName t).map fun n => (⟨none, some n⟩, s.withTokens ts)
  | _ => .ok (⟨none, none⟩, s)

/-- Whether a name is taken. -/
def isTaken (s : Source) (anchor : Option Text) : Bool :=
  match anchor with
  | none => false
  | some a => (s.anchors.lookup a).isSome

/-- Whether a member of a block sequence is left out, by the token behind its dash. -/
def skipsMember : List Token → Bool
  | .member :: _ => true
  | .blockEnd :: _ => true
  | _ => false

/-- Whether a key or value of a block mapping is left out, by the token behind its mark. -/
def skipsEntry : List Token → Bool
  | .key :: _ => true
  | .value :: _ => true
  | .blockEnd :: _ => true
  | _ => false

/-- Whether a member of a sequence without a block of its own is left out. -/
def skipsLooseMember : List Token → Bool
  | .member :: _ => true
  | ts => skipsEntry ts

/-- Whether a key inside brackets is left out; `close` ends the collection. -/
def skipsFlowKey (close : Token) : List Token → Bool
  | .value :: _ => true
  | .comma :: _ => true
  | t :: _ => t = close
  | [] => false

/-- Whether a value inside brackets is left out; `close` ends the collection. -/
def skipsFlowValue (close : Token) : List Token → Bool
  | .comma :: _ => true
  | t :: _ => t = close
  | [] => false

/-- A node that may be left out. -/
def absentOr (isLeftOut : Bool) (read : Source → Except YamlError (Front Nat)) (s : Source) :
    Except YamlError (Front Nat) :=
  if isLeftOut then .ok s.absent else read s

mutual

/-- A node; `block` allows block collections, `loose` sequences without a block of their own. -/
def node (block loose : Bool) : Nat → Source → Except YamlError (Front Nat)
  | 0, _ => .error .malformed
  | n + 1, s =>
    match s.tokens with
    | .alias a :: ts =>
      match s.anchors.lookup a with
      | none => .error .malformed
      | some p => .ok (p, s.withTokens ts)
    | _ =>
      match s.properties with
      | .error e => .error e
      | .ok (p, s) => content block loose p n s

/-- What follows the properties of a node. -/
def content (block loose : Bool) (p : Properties) : Nat → Source → Except YamlError (Front Nat)
  | 0, _ => .error .malformed
  | n + 1, s =>
    let asSequence (read : Source → Except YamlError (Front (List Nat))) (ts : List Token) :
        Except YamlError (Front Nat) := do
      let (place, s) := (s.withTokens ts).add p.anchor
        ⟨Tag.ofCollection p.declared .sequence, .sequence []⟩
      let (ms, s) ← read s
      .ok (place, s.hold place (.sequence ms))
    let asMapping (read : Source → Except YamlError (Front (List (Nat × Nat))))
        (ts : List Token) : Except YamlError (Front Nat) := do
      let (place, s) := (s.withTokens ts).add p.anchor
        ⟨Tag.ofCollection p.declared .mapping, .mapping []⟩
      let (es, s) ← read s
      .ok (place, s.hold place (.mapping es))
    let asScalar (plain : Bool) (t : Text) (ts : List Token) : Except YamlError (Front Nat) :=
      .ok ((s.withTokens ts).add p.anchor ⟨Tag.ofScalar p.declared plain t, .scalar t⟩)
    let orAbsent : Except YamlError (Front Nat) :=
      if p.anchor.isSome ∨ p.declared.isSome then asScalar true [] s.tokens else s.refuse
    let read : Except YamlError (Front Nat) :=
      match s.tokens with
      | .scalar plain t :: ts => asScalar plain t ts
      | .openSequence :: ts => asSequence (flowMembers true n) ts
      | .openMapping :: ts => asMapping (flowEntries true n) ts
      | .blockSequence :: ts => if block then asSequence (blockMembers n) ts else orAbsent
      | .blockMapping :: ts => if block then asMapping (blockEntries n) ts else orAbsent
      | .member :: ts => if loose then asSequence (looseMembers n) (.member :: ts) else orAbsent
      | _ => orAbsent
    match s.tokens with
    | .fault e :: _ => .error e
    | _ => if s.isTaken p.anchor then .error .malformed else read

/-- The members of a block sequence and the end of the block. -/
def blockMembers : Nat → Source → Except YamlError (Front (List Nat))
  | 0, _ => .error .malformed
  | n + 1, s =>
    match s.tokens with
    | .member :: ts => do
      let (x, s) ← absentOr (skipsMember ts) (node true false n) (s.withTokens ts)
      let (xs, s) ← blockMembers n s
      .ok (x :: xs, s)
    | .blockEnd :: ts => .ok ([], s.withTokens ts)
    | _ => s.refuse

/-- The members of a sequence without a block of its own. -/
def looseMembers : Nat → Source → Except YamlError (Front (List Nat))
  | 0, _ => .error .malformed
  | n + 1, s =>
    match s.tokens with
    | .member :: ts => do
      let (x, s) ← absentOr (skipsLooseMember ts) (node true false n) (s.withTokens ts)
      let (xs, s) ← looseMembers n s
      .ok (x :: xs, s)
    | _ => .ok ([], s)

/-- The entries of a block mapping and the end of the block. -/
def blockEntries : Nat → Source → Except YamlError (Front (List (Nat × Nat)))
  | 0, _ => .error .malformed
  | n + 1, s =>
    match s.tokens with
    | .key :: ts => do
      let (k, s) ← absentOr (skipsEntry ts) (node true true n) (s.withTokens ts)
      let (v, s) ← blockValue n s
      let (es, s) ← blockEntries n s
      .ok ((k, v) :: es, s)
    | .blockEnd :: ts => .ok ([], s.withTokens ts)
    | _ => s.refuse

/-- The value of an entry of a block mapping, which may be left out with its mark. -/
def blockValue : Nat → Source → Except YamlError (Front Nat)
  | 0, _ => .error .malformed
  | n + 1, s =>
    match s.tokens with
    | .value :: ts => absentOr (skipsEntry ts) (node true true n) (s.withTokens ts)
    | _ => .ok s.absent

/-- The members of a sequence in brackets and the closing bracket; a member with a key is a mapping
of one entry. -/
def flowMembers (first : Bool) : Nat → Source → Except YamlError (Front (List Nat))
  | 0, _ => .error .malformed
  | n + 1, s =>
    let one (s : Source) : Except YamlError (Front (List Nat)) :=
      match s.tokens with
      | .closeSequence :: ts => .ok ([], s.withTokens ts)
      | .key :: ts => do
        let isLeftOut := skipsFlowKey .closeSequence ts
        let (k, s) ← absentOr isLeftOut (node false false n) (s.withTokens ts)
        let (v, s) ← flowValue .closeSequence n s
        let (x, s) := s.add none ⟨.mapping, .mapping [(k, v)]⟩
        let (xs, s) ← flowMembers false n s
        .ok (x :: xs, s)
      | _ => do
        let (x, s) ← node false false n s
        let (xs, s) ← flowMembers false n s
        .ok (x :: xs, s)
    match s.tokens with
    | .closeSequence :: ts => .ok ([], s.withTokens ts)
    | .comma :: ts => one (if first then s else s.withTokens ts)
    | _ => if first then one s else s.refuse

/-- The entries of a mapping in brackets and the closing bracket; a node without a key's mark is a
key without a value. -/
def flowEntries (first : Bool) : Nat → Source → Except YamlError (Front (List (Nat × Nat)))
  | 0, _ => .error .malformed
  | n + 1, s =>
    let one (s : Source) : Except YamlError (Front (List (Nat × Nat))) :=
      match s.tokens with
      | .closeMapping :: ts => .ok ([], s.withTokens ts)
      | .key :: ts => do
        let isLeftOut := skipsFlowKey .closeMapping ts
        let (k, s) ← absentOr isLeftOut (node false false n) (s.withTokens ts)
        let (v, s) ← flowValue .closeMapping n s
        let (es, s) ← flowEntries false n s
        .ok ((k, v) :: es, s)
      | _ => do
        let (k, s) ← node false false n s
        let (v, s) := s.absent
        let (es, s) ← flowEntries false n s
        .ok ((k, v) :: es, s)
    match s.tokens with
    | .closeMapping :: ts => .ok ([], s.withTokens ts)
    | .comma :: ts => one (if first then s else s.withTokens ts)
    | _ => if first then one s else s.refuse

/-- The value of an entry in brackets, which may be left out with its mark. -/
def flowValue (close : Token) : Nat → Source → Except YamlError (Front Nat)
  | 0, _ => .error .malformed
  | n + 1, s =>
    match s.tokens with
    | .value :: ts => absentOr (skipsFlowValue close ts) (node false false n) (s.withTokens ts)
    | _ => .ok s.absent

end

/-! ## Documents -/

/-- What handles stand for in every document. -/
def usualHandles : List (Text × Text) := [(['!'], ['!']), (['!', '!'], Tag.family.toList)]

/-- The directives in front of a document: whether a version was given, the handles that were set,
and the tokens behind. -/
def directives (version : Bool) (handles : List (Text × Text)) :
    List Token → Except YamlError (List (Text × Text) × List Token)
  | .directive (.version major) :: ts =>
    if version ∨ major ≠ 1 then .error .malformed else directives true handles ts
  | .directive (.tag h full) :: ts =>
    if (handles.lookup h).isSome then .error .malformed
    else directives version ((h, full) :: handles) ts
  | .directive .reserved :: ts => directives version handles ts
  | ts => .ok (handles, ts)

/-- Whether a document has no node, by the token behind its mark. -/
def skipsNode : List Token → Bool
  | [] => true
  | .directive _ :: _ => true
  | .documentStart :: _ => true
  | .documentEnd :: _ => true
  | _ => false

/-- The node of a document that has a mark at its start. -/
def marked (s : Source) : Except YamlError (Front Nat) :=
  match directives false [] s.tokens with
  | .error e => .error e
  | .ok (handles, .documentStart :: ts) =>
    let s : Source := { s with tokens := ts, handles := handles ++ usualHandles }
    if skipsNode ts then .ok s.absent else node true false (2 * ts.length + 2) s
  | .ok (_, ts) => (s.withTokens ts).refuse

/-- The source behind the marks of the end of a document. -/
def skipEnds : List Token → List Token
  | .documentEnd :: ts => skipEnds ts
  | ts => ts

/-- Nothing may follow a document but marks of its end; what is wrong with the start of a second
document comes first. -/
def atEnd (s : Source) : Except YamlError Unit :=
  match skipEnds s.tokens with
  | [] => .ok ()
  | ts =>
    match directives false [] ts with
    | .error e => .error e
    | .ok (_, ts) => (s.withTokens ts).refuse

/-- The place of the one document of some tokens, with all nodes; none if there is nothing. -/
def document (ts : List Token) : Except YamlError (Option (Nat × Graph)) :=
  let s : Source := ⟨ts, .empty, [], usualHandles⟩
  let read (first : Except YamlError (Front Nat)) : Except YamlError (Option (Nat × Graph)) := do
    let (p, s) ← first
    s.atEnd
    .ok (some (p, s.graph))
  match ts with
  | [] => .ok none
  | .directive _ :: _ => read s.marked
  | .documentStart :: _ => read s.marked
  | _ => read (node true false (2 * ts.length + 2) s)

end Source

/-- The place of the node of a text that holds one document, with all nodes; none if the text holds
no document. -/
def Graph.ofText? (t : Text) : Except YamlError (Option (Nat × Graph)) :=
  Source.document (Token.ofText t)

example : (Graph.ofText? "&a [*a]".toList).map (·.map (·.1)) = .ok (some 0) := by decide +kernel

end Respell.Yaml
