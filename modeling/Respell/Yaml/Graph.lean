/-
  The nodes of a document and how they hang together.

  1. **Places.**  A node is known by its place.  What it holds is a text, or places of other nodes;
     so one node may be a member of several others, and of itself.

  2. **Merging.**  A mapping whose key is the mark of a merge takes over the entries of the mapping
     that stands there, or of several, the last one first; they come in front of its own.  The key
     and its value vanish, also for whoever looks at the mapping later.  The mark of a default value
     is, as a key, a text like any other.

  Like all modules under `Respell.Yaml`, this one stands for a library (see `Respell.Yaml.Read`).
-/
import Respell.Yaml.Implicit
import Respell.Yaml.Error

namespace Respell.Yaml

/-- What a node holds; other nodes are known by their places. -/
inductive Content where
  | scalar (text : Text)
  | sequence (members : List Nat)
  | mapping (entries : List (Nat × Nat))
  deriving DecidableEq, Repr

/-- A node with its type. -/
structure Node where
  tag : Tag
  content : Content
  deriving DecidableEq, Repr

/-- The nodes of a document, by their places. -/
structure Graph where
  nodes : Array Node
  deriving DecidableEq, Repr

namespace Graph

/-- The graph without nodes. -/
def empty : Graph := ⟨#[]⟩

/-- The number of nodes. -/
def size (g : Graph) : Nat := g.nodes.size

/-- The node at a place. -/
def get (g : Graph) (p : Nat) : Node := g.nodes.getD p ⟨.other, .scalar []⟩

/-- The graph with one more node, whose place is the old size. -/
def add (g : Graph) (x : Node) : Graph := ⟨g.nodes.push x⟩

/-- The graph with another node at a place. -/
def set (g : Graph) (p : Nat) (x : Node) : Graph := ⟨g.nodes.setIfInBounds p x⟩

/-- The type of the node at a place. -/
def tagAt (g : Graph) (p : Nat) : Tag := (g.get p).tag

/-- The entries of the node at a place; none if it is no mapping. -/
def entriesAt (g : Graph) (p : Nat) : List (Nat × Nat) :=
  match (g.get p).content with
  | .mapping es => es
  | _ => []

/-- The graph with other entries at a place. -/
def setEntries (g : Graph) (p : Nat) (es : List (Nat × Nat)) : Graph :=
  g.set p ⟨g.tagAt p, .mapping es⟩

/-! ## Texts -/

/-- The text of the node at a place, when it is taken for a scalar: its own, or that of its default
value.  A node is its own default value if more steps lead to a text than there are nodes. -/
def textWithin (g : Graph) : Nat → Nat → Except YamlError Text
  | 0, _ => .error .endless
  | n + 1, p =>
    match (g.get p).content with
    | .scalar t => .ok t
    | .sequence _ => .error .malformed
    | .mapping es =>
      match es.find? fun e => g.tagAt e.1 = .defaultValue with
      | none => .error .malformed
      | some e => g.textWithin n e.2

/-- The text of the node at a place, when it is taken for a scalar. -/
def textAt (g : Graph) (p : Nat) : Except YamlError Text := g.textWithin (g.size + 1) p

/-! ## Merging -/

/-- Whether the key of an entry is the mark of a merge. -/
def isMerge (g : Graph) (e : Nat × Nat) : Bool := g.tagAt e.1 = .merge

/-- The number of entries that are still to be merged. -/
def merges (g : Graph) : Nat :=
  (List.range g.size).foldr (fun p n => (g.entriesAt p).countP g.isMerge + n) 0

/-- The graph with a key taken for a text if it is the mark of a default value. -/
def settleKey (g : Graph) (k : Nat) : Graph :=
  if g.tagAt k = .defaultValue then g.set k { g.get k with tag := .text } else g

/-- The graph with the merged entries put in front of those at a place, and its keys settled. -/
def settleEntries (g : Graph) (p : Nat) (merged : List (Nat × Nat)) : Graph :=
  let es := g.entriesAt p
  (es.foldl (fun g e => g.settleKey e.1) g).setEntries p (merged ++ es)

/-- The first entry of a list that is to be merged, and the others. -/
def takeMerge? (g : Graph) : List (Nat × Nat) → Option ((Nat × Nat) × List (Nat × Nat))
  | [] => none
  | e :: es =>
    if g.isMerge e then some (e, es) else (g.takeMerge? es).map fun r => (r.1, e :: r.2)

/-- The graph with all merges done at a place, behind those whose entries are `merged`.  At most
`n` entries are merged on the way, one in each step. -/
def mergeWithin : Nat → Graph → Nat → List (Nat × Nat) → Except YamlError Graph
  | 0, g, p, merged => .ok (g.settleEntries p merged)
  | n + 1, g, p, merged =>
    match g.takeMerge? (g.entriesAt p) with
    | none => .ok (g.settleEntries p merged)
    | some (e, es) =>
      let g := g.setEntries p es
      match (g.get e.2).content with
      | .scalar _ => .error .malformed
      | .mapping _ => do
        let g ← mergeWithin n g e.2 []
        mergeWithin n g p (merged ++ g.entriesAt e.2)
      | .sequence ms => do
        let (g, parts) ← ms.foldlM (fun (g, parts) m =>
          match (g.get m).content with
          | .mapping _ => (mergeWithin n g m []).map fun g => (g, g.entriesAt m :: parts)
          | _ => .error .malformed) (g, [])
        mergeWithin n g p (merged ++ parts.flatten)

/-- The graph with all merges done at a place. -/
def merge (g : Graph) (p : Nat) : Except YamlError Graph := mergeWithin g.merges g p []

example : (merge ⟨#[⟨.mapping, .mapping [(1, 0), (2, 2)]⟩, ⟨.merge, .scalar ['<', '<']⟩,
    ⟨.text, .scalar ['a']⟩]⟩ 0).map (·.entriesAt 0) = .ok [(2, 2), (2, 2)] := by decide +kernel

end Graph

end Respell.Yaml
