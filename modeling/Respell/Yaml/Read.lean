/-
  The value of a text.

  1. **One node, one value.**  A node becomes a value by its type, and it becomes one only once, so
     that its value may be met in several places.  A type that does not fit the node or is not known
     makes the text malformed.

  2. **Order.**  A collection is a value before anything is in it.  Collections are filled in the
     order in which they became values: the outer ones first, and of those on one level the first.
     So of several errors the one nearest to the top counts.  What is merged into a mapping is
     settled before its first entry is looked at.

  The modules under `Respell.Yaml` stand for PyYAML, the library that the program reads and writes
  its settings with.  That library is no part of the program, and nothing of it is at hand to be
  followed line by line; they do what it does on the texts that it was tried on.  Two things are left
  out: its limit on how deep nodes may be written in one another, and the halves of surrogate pairs
  that its texts may have.
-/
import Respell.Yaml.Node
import Respell.Yaml.Value
import Respell.Yaml.Written

namespace Respell.Yaml

/-- Whether a node of a type is a collection, to be filled later. -/
def Tag.isCollection : Tag → Bool
  | .sequence => true
  | .mapping => true
  | .set => true
  | .pairs => true
  | _ => false

/-- Nodes of which some have become values. -/
structure Reader where
  graph : Graph
  /-- The values of the nodes that have one. -/
  values : Array (Option Value)
  collections : Array Collection
  /-- The collections that are not yet filled, the newest first. -/
  pending : List Nat

namespace Reader

/-- Nodes that have no values yet. -/
def start (g : Graph) : Reader :=
  ⟨g, .replicate g.size none, .replicate g.size (.list []), []⟩

/-- The scalar that a node is. -/
def scalarAt (g : Graph) (p : Nat) : Except YamlError Scalar :=
  match g.textAt p with
  | .error e => .error e
  | .ok t =>
    match g.tagAt p, (g.get p).content with
    | .date, .mapping _ => .error .dateMapping
    | tag, _ => Scalar.read tag p t

/-- Whether a node has a type that is known for values. -/
def hasValue (g : Graph) (p : Nat) : Bool :=
  match g.tagAt p with
  | .merge => false
  | .defaultValue => false
  | .other => false
  | _ => true

/-- The reader with the value of a node. -/
def withValue (r : Reader) (p : Nat) (v : Value) : Reader :=
  { r with values := r.values.setIfInBounds p (some v) }

/-- The value of a node. -/
def value (r : Reader) (p : Nat) : Except YamlError (Value × Reader) :=
  match r.values[p]? with
  | some (some v) => .ok (v, r)
  | _ =>
    if !hasValue r.graph p then .error .malformed
    else if (r.graph.tagAt p).isCollection then
      .ok (.collection p, { r.withValue p (.collection p) with pending := p :: r.pending })
    else (scalarAt r.graph p).map fun s => (.scalar s, r.withValue p (.scalar s))

/-- The values of some nodes. -/
def valuesOf (r : Reader) : List Nat → Except YamlError (List Value × Reader)
  | [] => .ok ([], r)
  | p :: ps => do
    let (v, r) ← r.value p
    let (vs, r) ← r.valuesOf ps
    .ok (v :: vs, r)

/-- The key that a node is. -/
def key (r : Reader) (p : Nat) : Except YamlError (Scalar × Reader) := do
  match ← r.value p with
  | (.scalar s, r) => .ok (s, r)
  | (.collection _, _) => .error .malformed

/-- The entries that pairs of nodes make behind those that are `done`. -/
def entriesFrom (done : List (Scalar × Value)) (r : Reader) :
    List (Nat × Nat) → Except YamlError (List (Scalar × Value) × Reader)
  | [] => .ok (done, r)
  | e :: es => do
    let (k, r) ← r.key e.1
    let (v, r) ← r.value e.2
    entriesFrom (Collection.put done k v) r es

/-- The entries of a mapping, those that are merged into it in front. -/
def entries (r : Reader) (p : Nat) : Except YamlError (List (Scalar × Value) × Reader) :=
  match (r.graph.get p).content with
  | .mapping _ => do
    let g ← r.graph.merge p
    entriesFrom [] { r with graph := g } (g.entriesAt p)
  | _ => .error .malformed

/-- The pairs that mappings of one entry make. -/
def pairsOf (r : Reader) : List Nat → Except YamlError (List (Value × Value) × Reader)
  | [] => .ok ([], r)
  | p :: ps => do
    match (r.graph.get p).content with
    | .mapping [e] =>
      let (k, r) ← r.value e.1
      let (v, r) ← r.value e.2
      let (es, r) ← r.pairsOf ps
      .ok ((k, v) :: es, r)
    | _ => .error .malformed

/-- What a collection holds. -/
def collection (r : Reader) (p : Nat) : Except YamlError (Collection × Reader) :=
  match r.graph.tagAt p, (r.graph.get p).content with
  | .mapping, _ => (r.entries p).map fun x => (.mapping x.1, x.2)
  | .set, _ => (r.entries p).map fun x => (.set (x.1.map (·.1)), x.2)
  | .sequence, .sequence ps => (r.valuesOf ps).map fun x => (.list x.1, x.2)
  | .pairs, .sequence ps => (r.pairsOf ps).map fun x => (.pairs x.1, x.2)
  | _, _ => .error .malformed

/-- The reader with a collection filled. -/
def fill (r : Reader) (p : Nat) : Except YamlError Reader :=
  (r.collection p).map fun x =>
    { x.2 with collections := x.2.collections.setIfInBounds p x.1 }

/-- The reader with all collections filled, on at most `n` levels. -/
def fillAll : Nat → Reader → Except YamlError Reader
  | 0, r => .ok r
  | n + 1, r =>
    if r.pending.isEmpty then .ok r
    else do
      let r ← r.pending.reverse.foldlM fill { r with pending := [] }
      fillAll n r

end Reader

/-- The value of a node and all that it leads to.  A collection is filled once, so there are no more
levels than nodes. -/
def Graph.read (g : Graph) (p : Nat) : Except YamlError Document := do
  let (v, r) ← (Reader.start g).value p
  let r ← r.fillAll (g.size + 1)
  .ok ⟨v, r.collections⟩

/-! ## Texts -/

/-- A text with every carriage return, alone or in front of a newline, read as a newline. -/
def withNewlines : Text → Text
  | [] => []
  | '\r' :: '\n' :: t => '\n' :: withNewlines t
  | '\r' :: t => '\n' :: withNewlines t
  | c :: t => c :: withNewlines t

/-- What a text holds; a text without a document holds nothing. -/
def read (t : Text) : Except YamlError Document :=
  match Graph.ofText? (withNewlines t) with
  | .error e => .error e
  | .ok none => .ok .empty
  | .ok (some (p, g)) => g.read p

example : (read "a: [1]".toList).map (·.collections.toList) = .ok
    [.mapping [(.text ['a'], .collection 2)], .list [], .list [.scalar (.int 1)], .list []] := by
  decide +kernel

end Respell.Yaml
