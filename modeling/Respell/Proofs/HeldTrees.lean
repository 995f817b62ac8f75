/-
  When a document holds a tree.

  What is written is a tree, and what is read is a document.  A document holds a tree in one of its values
  if the value is what the tree is: the same text, the same truth value, a list with the same members in
  the same order, or a mapping with the same keys and with what they stand for.  The entries of a mapping
  may stand in another order than they were written.

  1. **Entries** (`exists_entries_of_holds`).  A mapping that holds a tree with distinct keys has just the
     entries of the tree, in some order.

  2. **Reading back** (`readsBack`).  Whether a mapping that is written is held by what is read.
-/
import Mathlib.Data.List.Perm.Basic
import Mathlib.Data.List.Perm.Subperm
import Mathlib.Data.List.Nodup
import Respell.Yaml.Read
import Respell.Yaml.Write

namespace Respell.Yaml

namespace Document

mutual

/-- Whether a value of a document is what a tree is. -/
def holds (d : Document) (v : Value) : Tree → Bool
  | .text t => v = .scalar (.text t)
  | .bool b => v = .scalar (.bool b)
  | .list ts =>
    match d.content? v with
    | some (.list vs) => holdsAll d vs ts
    | _ => false
  | .mapping ts =>
    match d.entries? v with
    | some es => es.length = ts.length && holdsEntries d es ts
    | none => false

/-- Whether the values of a list are what some trees are, one by one. -/
def holdsAll (d : Document) : List Value → List Tree → Bool
  | vs, [] => vs.isEmpty
  | [], _ :: _ => false
  | v :: vs, t :: ts => holds d v t && holdsAll d vs ts

/-- Whether entries have the keys that are written, for what is written. -/
def holdsEntries (d : Document) (es : List (Scalar × Value)) : List (Text × Tree) → Bool
  | [] => true
  | (k, t) :: ts =>
    (match get? es (String.ofList k) with
      | some v => holds d v t
      | none => false) && holdsEntries d es ts

end

variable {d : Document} {v : Value} {es : List (Scalar × Value)} {ts : List (Text × Tree)}

/-- Whether an entry is what is written as one. -/
def HoldsEntry (d : Document) (e : Scalar × Value) (t : Text × Tree) : Prop :=
  e.1 = .text t.1 ∧ d.holds e.2 t.2 = true

theorem mem_of_get? {key : String} (h : get? es key = some v) : (Scalar.text key.toList, v) ∈ es := by
  obtain ⟨⟨k, w⟩, hfind, rfl⟩ := Option.map_eq_some_iff.1 h
  obtain rfl : k = .text key.toList := by simpa using List.find?_some hfind
  exact List.mem_of_find?_eq_some hfind

theorem holdsEntries_iff : d.holdsEntries es ts = true ↔
    ∀ t ∈ ts, ∃ w, get? es (String.ofList t.1) = some w ∧ d.holds w t.2 = true := by
  induction ts with
  | nil => simp [holdsEntries]
  | cons t ts ih =>
    rw [holdsEntries, Bool.and_eq_true, ih, List.forall_mem_cons]
    refine and_congr_left fun _ => ?_
    cases get? es (String.ofList t.1) <;> simp

theorem forall₂_of_holdsAll {vs : List Value} {trees : List Tree} (h : d.holdsAll vs trees = true) :
    List.Forall₂ (fun v t => d.holds v t = true) vs trees := by
  induction trees generalizing vs with
  | nil =>
    obtain rfl := List.isEmpty_iff.1 h
    exact .nil
  | cons t trees ih =>
    cases vs with
    | nil => cases h
    | cons v vs =>
      rw [holdsAll, Bool.and_eq_true] at h
      exact .cons h.1 (ih h.2)

/-- A list that is held has the values that its members are. -/
theorem exists_list_of_holds {trees : List Tree} (h : d.holds v (.list trees) = true) :
    ∃ vs, d.content? v = some (.list vs) ∧ List.Forall₂ (fun v t => d.holds v t = true) vs trees := by
  rw [holds] at h
  split at h
  · exact ⟨_, ‹_›, forall₂_of_holdsAll h⟩
  · cases h

theorem keys_of_forall₂ (h : List.Forall₂ (HoldsEntry d) es ts) :
    es.map Prod.fst = (ts.map Prod.fst).map Scalar.text := by
  induction h with
  | nil => rfl
  | cons hentry _ ih => rw [List.map_cons, List.map_cons, List.map_cons, ih, hentry.1]

/-- Entries one by one for what was written, if each of them is somewhere. -/
theorem exists_forall₂_of_found (h : ∀ t ∈ ts, ∃ e ∈ es, HoldsEntry d e t) :
    ∃ found, found ⊆ es ∧ List.Forall₂ (HoldsEntry d) found ts := by
  induction ts with
  | nil => exact ⟨[], List.nil_subset es, .nil⟩
  | cons t ts ih =>
    obtain ⟨⟨e, he, hholds⟩, hrest⟩ := List.forall_mem_cons.1 h
    obtain ⟨found, hsub, hheld⟩ := ih hrest
    exact ⟨e :: found, List.cons_subset.2 ⟨he, hsub⟩, .cons hholds hheld⟩

/-- Entries that are found under distinct keys, as many as there are, are all entries there are. -/
theorem exists_perm_of_holdsEntries (hkeys : (ts.map Prod.fst).Nodup) (hlen : es.length = ts.length)
    (h : d.holdsEntries es ts = true) : ∃ ts', List.Forall₂ (HoldsEntry d) es ts' ∧ ts'.Perm ts := by
  have hfound : ∀ t ∈ ts, ∃ e ∈ es, HoldsEntry d e t := by
    intro t ht
    obtain ⟨w, hget, hholds⟩ := holdsEntries_iff.1 h t ht
    refine ⟨_, mem_of_get? hget, ?_, hholds⟩
    rw [String.toList_ofList]
  obtain ⟨found, hsub, hheld⟩ := exists_forall₂_of_found hfound
  -- Distinct keys make distinct entries, and there is room for no others.
  have hnodup : found.Nodup := by
    refine List.Nodup.of_map Prod.fst ?_
    rw [keys_of_forall₂ hheld]
    exact hkeys.map fun _ _ => Scalar.text.inj
  have hperm : es.Perm found :=
    ((List.subperm_of_subset hnodup hsub).perm_of_length_le
      (Nat.le_of_eq (hlen.trans hheld.length_eq.symm))).symm
  exact List.perm_comp_forall₂ hperm hheld

/-- **A mapping that is held** has the entries that were written, in some order, and what was written for
    a key is found under it. -/
theorem exists_entries_of_holds (hkeys : (ts.map Prod.fst).Nodup)
    (h : d.holds v (.mapping ts) = true) :
    ∃ es ts', d.entries? v = some es ∧ List.Forall₂ (HoldsEntry d) es ts' ∧ ts'.Perm ts ∧
      ∀ t ∈ ts, ∃ w, get? es (String.ofList t.1) = some w ∧ d.holds w t.2 = true := by
  rw [holds] at h
  split at h
  · rename_i es hes
    rw [Bool.and_eq_true, decide_eq_true_iff] at h
    obtain ⟨ts', hheld, hperm⟩ := exists_perm_of_holdsEntries hkeys h.1 h.2
    exact ⟨es, ts', hes, hheld, hperm, holdsEntries_iff.1 h.2⟩
  · cases h

/-- Under a key that was not written nothing is found. -/
theorem get?_eq_none {ts' : List (Text × Tree)} (hheld : List.Forall₂ (HoldsEntry d) es ts')
    (hperm : ts'.Perm ts) {key : String} (hkey : key.toList ∉ ts.map Prod.fst) :
    get? es key = none := by
  rw [get?, Option.map_eq_none_iff, List.find?_eq_none]
  intro e he
  rw [decide_eq_true_iff]
  intro hsame
  have hmem : Scalar.text key.toList ∈ (ts'.map Prod.fst).map Scalar.text := by
    rw [← keys_of_forall₂ hheld, ← hsame]
    exact List.mem_map_of_mem he
  obtain ⟨k, hk, hkey'⟩ := List.mem_map.1 hmem
  obtain rfl := Scalar.text.inj hkey'
  exact hkey ((hperm.map Prod.fst).mem_iff.1 hk)

end Document

/-- Whether a mapping that is written is held by what is read. -/
def readsBack (es : List (Text × Tree)) : Bool :=
  match read (write es) with
  | .ok d => d.holds d.root (.mapping es)
  | .error _ => false

theorem readsBack_iff {es : List (Text × Tree)} :
    readsBack es = true ↔ ∃ d, read (write es) = .ok d ∧ d.holds d.root (.mapping es) = true := by
  unfold readsBack
  cases read (write es) <;> simp

end Respell.Yaml
