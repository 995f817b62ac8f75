/-
  Values that have no text.

  A value is shown as text with all that it holds, and two things have no text: a number with too many
  decimal digits, and what stands deeper than there is room for texts made one inside another.  A value
  may hold others, these again others and in the end itself, and a collection that is met inside itself
  is not listed again.  So it is not plain that each such number is met at all, nor how deep a value
  that holds itself goes.

  1. **Results** (`FailsIff`) that fail if and only if something holds.  Such statements are put together
     as the results are.

  2. **Ways** from a value to what it holds (`Yaml.Document.Contains`).  The listing goes only the ways on
     which no collection comes twice.  From every way there is such a one, because of a way that comes
     back to a collection only the part behind its last visit is needed (`exists_last_visit`).

  3. **Depth** (`Yaml.Document.TooDeep`) is how much room the collections on such a way take up.  Here it
     counts that no collection comes twice (`Yaml.Document.Way`): round and round, a value that holds
     itself would be deeper than any room.

  4. **The law** (`Yaml.Document.shown_noTextIff`).  A value has no text if and only if a number that is too
     long can be reached from it, or a way from it is too deep.
-/
import Mathlib.Logic.Relation
import Respell.Proofs.Limits
import Respell.Settings

namespace Respell

open Relation

/-! ## Results -/

/-- Whether a result is a failure, for a reason of some kind, if and only if something holds. -/
inductive FailsIff {ε α : Type} (R : ε → Prop) (P : Prop) : Except ε α → Prop where
  | fails {e : ε} : R e → P → FailsIff R P (.error e)
  | succeeds (a : α) : ¬ P → FailsIff R P (.ok a)

namespace FailsIff

variable {ε α β : Type} {R : ε → Prop} {P Q : Prop} {r : Except ε α}

theorem congr (h : FailsIff R P r) (hPQ : P ↔ Q) : FailsIff R Q r := by
  cases h with
  | fails he hP => exact .fails he (hPQ.1 hP)
  | succeeds a hP => exact .succeeds a (mt hPQ.2 hP)

theorem map (h : FailsIff R P r) (f : α → β) : FailsIff R P (r.map f) := by
  cases h with
  | fails he hP => exact .fails he hP
  | succeeds a hP => exact .succeeds (f a) hP

theorem bind (h : FailsIff R P r) {f : α → Except ε β} (hf : ∀ a, FailsIff R Q (f a)) :
    FailsIff R (P ∨ Q) (r.bind f) := by
  cases h with
  | fails he hP => exact .fails he (.inl hP)
  | succeeds a hP => exact (hf a).congr (or_iff_right hP).symm

/-- A pass over a list fails if one of the results does. -/
theorem allOf {f : α → Except ε β} {P : α → Prop} {as : List α}
    (h : ∀ a ∈ as, FailsIff R (P a) (f a)) : FailsIff R (∃ a ∈ as, P a) (allOf (as.map f)) := by
  induction as with
  | nil => exact .succeeds [] (by simp)
  | cons a as ih =>
    obtain ⟨ha, has⟩ := List.forall_mem_cons.1 h
    rw [List.map_cons]
    generalize f a = r at ha
    cases ha with
    | fails he hP => exact .fails he ⟨a, List.mem_cons_self, hP⟩
    | succeeds b hP =>
      refine ((ih has).map (b :: ·)).congr ?_
      rw [List.exists_mem_cons_iff, or_iff_right hP]

end FailsIff

/-! ## Numbers -/

namespace Numeral

/-- Whether an integer has too many decimal digits to be written. -/
def IsLong (i : Int) : Prop := 10 ^ digitLimit ≤ i.natAbs

/-- Whether there is no text if and only if something holds, and then because of a number that is too
    long. -/
abbrev NoTextIff {α : Type} (P : Prop) (r : Except NumeralError α) : Prop :=
  FailsIff (· = .tooLongToWrite) P r

theorem decimalText_noTextIff (n : Nat) : NoTextIff (10 ^ digitLimit ≤ n) (decimalText n) := by
  have hiff : (∃ t, decimalText n = .ok t) ↔ n < 10 ^ digitLimit :=
    (exists_write_iff (b := .decimal)).trans ⟨fun h => h rfl, fun h _ => h⟩
  cases htext : decimalText n with
  | ok t =>
    have hlt := hiff.1 ⟨t, htext⟩
    exact .succeeds t (Nat.not_le.2 hlt)
  | error e =>
    refine .fails ?_ ?_
    · unfold decimalText at htext
      dsimp only at htext
      split at htext
      · exact (Except.error.inj htext).symm
      · cases htext
    · by_contra hlt
      obtain ⟨t, ht⟩ := hiff.2 (Nat.not_le.1 hlt)
      rw [htext] at ht
      cases ht

theorem signed_noTextIff (i : Int) : NoTextIff (IsLong i) (signed i) := by
  cases i with
  | ofNat n => exact decimalText_noTextIff n
  | negSucc n => exact (decimalText_noTextIff (n + 1)).map _

end Numeral

open Numeral (signed_noTextIff)

namespace Yaml

/-- Whether a scalar is an integer that is too long. -/
def Scalar.IsLong (s : Scalar) : Prop := ∃ i, s = .int i ∧ Numeral.IsLong i

theorem Scalar.isLong_int_iff {i : Int} : (Scalar.int i).IsLong ↔ Numeral.IsLong i :=
  ⟨fun ⟨_, h, hi⟩ => Scalar.int.inj h ▸ hi, fun hi => ⟨i, rfl, hi⟩⟩

theorem Scalar.shown_noTextIff (s : Scalar) : Numeral.NoTextIff s.IsLong s.shown := by
  cases s with
  | int i => exact (signed_noTextIff i).congr isLong_int_iff.symm
  | null | bool | real | noNumber | bytes | text | date | moment =>
    exact .succeeds _ fun ⟨_, h, _⟩ => nomatch h

theorem Scalar.listed_noTextIff (s : Scalar) : Numeral.NoTextIff s.IsLong s.listed := by
  cases s with
  | int i => exact (signed_noTextIff i).congr isLong_int_iff.symm
  | null | bool | real | noNumber | bytes | text | date | moment =>
    exact .succeeds _ fun ⟨_, h, _⟩ => nomatch h

/-- Whether there is no text if and only if something holds, and then because of a number that is too
    long or of the depth. -/
abbrev NoTextIff {α : Type} (P : Prop) (r : Except TextError α) : Prop :=
  FailsIff (fun e => e = .numeral .tooLongToWrite ∨ e = .tooDeep) P r

theorem noTextIff_mapError {α : Type} {P : Prop} {r : Except NumeralError α}
    (h : Numeral.NoTextIff P r) : NoTextIff P (r.mapError .numeral) := by
  cases h with
  | fails he hP => exact .fails (.inl (congrArg TextError.numeral he)) hP
  | succeeds a hP => exact .succeeds a hP

theorem Scalar.listedWithin_noTextIff (s : Scalar) (room : Nat) :
    NoTextIff (s.IsLong ∨ room ≤ s.layersInside) (s.listedWithin room) := by
  unfold Scalar.listedWithin
  split
  · rename_i hdeep
    exact .fails (.inr rfl) (.inr hdeep)
  · rename_i hroom
    exact (noTextIff_mapError s.listed_noTextIff).congr (or_iff_left hroom).symm

/-! ## Ways -/

/-- The members of a collection; of an entry, the key and the value. -/
def Collection.members : Collection → List Value
  | .list vs => vs
  | .pairs es => es.flatMap fun e => [e.1, e.2]
  | .set ks => ks.map .scalar
  | .mapping es => es.flatMap fun e => [.scalar e.1, e.2]

namespace Document

variable {d : Document} {around : List Nat} {p : Nat} {v w : Value} {s : Scalar}

/-- Whether a value is a collection with another one as a member. -/
def Contains (d : Document) (v w : Value) : Prop := ∃ c, d.content? v = some c ∧ w ∈ c.members

/-- Whether a value is, or has in it at any depth, a number that is too long. -/
def HoldsLong (d : Document) (v : Value) : Prop :=
  ∃ s, s.IsLong ∧ ReflTransGen d.Contains v (.scalar s)

/-- One step of a way that does not go through some collections. -/
def ContainsOutside (d : Document) (around : List Nat) (v w : Value) : Prop :=
  d.Contains v w ∧ ∀ p ∈ around, v ≠ .collection p

/-- Whether a number that is too long is held in a way that does not go through some collections. -/
def HoldsLongOutside (d : Document) (around : List Nat) (v : Value) : Prop :=
  ∃ s, s.IsLong ∧ ReflTransGen (d.ContainsOutside around) v (.scalar s)

theorem holdsLongOutside_nil_iff : d.HoldsLongOutside [] v ↔ d.HoldsLong v := by
  have hsame : d.ContainsOutside [] = d.Contains := by
    funext v w
    exact propext (and_iff_left (List.forall_mem_nil _))
  rw [HoldsLongOutside, HoldsLong, hsame]

theorem not_contains_scalar : ¬ d.Contains (.scalar s) w := fun ⟨_, h, _⟩ => nomatch h

theorem contains_collection_iff {c : Collection} (hc : d.collections[p]? = some c) :
    d.Contains (.collection p) w ↔ w ∈ c.members := by
  rw [Contains, content?, hc]
  constructor
  · rintro ⟨c', hsame, hw⟩
    exact Option.some.inj hsame ▸ hw
  · intro hw
    exact ⟨c, rfl, hw⟩

/-- Only the number itself is reached from a number. -/
theorem holdsLongOutside_scalar_iff : d.HoldsLongOutside around (.scalar s) ↔ s.IsLong := by
  constructor
  · rintro ⟨s', hs', hway⟩
    rcases ReflTransGen.cases_head hway with hsame | ⟨w, ⟨hmember, -⟩, -⟩
    · exact Value.scalar.inj hsame ▸ hs'
    · exact absurd hmember not_contains_scalar
  · intro hs
    exact ⟨s, hs, .refl⟩

/-- **The last visit.**  A way either does not go through a collection, or it goes on from one of the
    collection's members and does not come back. -/
theorem exists_last_visit (p : Nat) (h : ReflTransGen (d.ContainsOutside around) v (.scalar s)) :
    ReflTransGen (d.ContainsOutside (p :: around)) v (.scalar s) ∨
      ∃ w, d.Contains (.collection p) w ∧
        ReflTransGen (d.ContainsOutside (p :: around)) w (.scalar s) := by
  -- from the end of the way to its beginning
  induction h using ReflTransGen.head_induction_on with
  | refl => exact .inl .refl
  | @head v u hstep _ ih =>
    rcases ih with hway | hvisit
    · by_cases hv : v = .collection p
      · exact .inr ⟨u, hv ▸ hstep.1, hway⟩
      · exact .inl (.head ⟨hstep.1, List.forall_mem_cons.2 ⟨hv, hstep.2⟩⟩ hway)
    · exact .inr hvisit

/-- **A collection holds what its members hold** without it. -/
theorem holdsLongOutside_collection_iff :
    d.HoldsLongOutside around (.collection p) ↔
      p ∉ around ∧ ∃ w, d.Contains (.collection p) w ∧ d.HoldsLongOutside (p :: around) w := by
  constructor
  · rintro ⟨s, hs, hway⟩
    rcases ReflTransGen.cases_head hway with hsame | ⟨u, ⟨hmember, hout⟩, hrest⟩
    · cases hsame
    · refine ⟨fun hp => hout p hp rfl, ?_⟩
      rcases exists_last_visit p hrest with hway | ⟨w, hw, hway⟩
      · exact ⟨u, hmember, s, hs, hway⟩
      · exact ⟨w, hw, s, hs, hway⟩
  · rintro ⟨hp, w, hmember, s, hs, hway⟩
    -- what does not go through more collections does not go through fewer
    have hmore : ∀ u w, d.ContainsOutside (p :: around) u w → d.ContainsOutside around u w :=
      fun _ _ h => ⟨h.1, (List.forall_mem_cons.1 h.2).2⟩
    refine ⟨s, hs, .head ⟨hmember, fun q hq hsame => ?_⟩ (ReflTransGen.mono hmore _ _ hway)⟩
    exact hp (Value.collection.inj hsame ▸ hq)

/-! ## Depth -/

/-- A way from a value to one in it, with the places of the collections that it goes through.  No
    collection comes twice. -/
inductive Way (d : Document) : List Nat → Value → Value → Prop where
  | here (v : Value) : Way d [] v v
  | member {p : Nat} {ps : List Nat} {w u : Value} : d.Contains (.collection p) w → p ∉ ps →
      Way d ps w u → Way d (p :: ps) (.collection p) u

/-- How many texts the collection at a place takes up around those of its members. -/
def layersAt (d : Document) (p : Nat) : Nat := (d.collections[p]?.map layers).getD 0

/-- How many texts are made one inside another in a value, members of collections apart. -/
def layersInside : Value → Nat
  | .scalar s => s.layersInside
  | .collection _ => 0

/-- Whether, where some number of texts can be made one inside another, there is a way to something
    that is too deep, and it does not go through some collections. -/
def TooDeepOutside (d : Document) (around : List Nat) (room : Nat) (v : Value) : Prop :=
  ∃ ps u, d.Way ps v u ∧ (∀ p ∈ ps, p ∉ around) ∧ room ≤ (ps.map d.layersAt).sum + layersInside u

/-- Whether a collection goes deeper than there is room for texts made one inside another.  The text of
    a scalar is not made inside another. -/
inductive TooDeep (d : Document) (room : Nat) : Value → Prop where
  | collection {p : Nat} {ps : List Nat} {u : Value} : d.Way ps (.collection p) u →
      room ≤ (ps.map d.layersAt).sum + layersInside u → TooDeep d room (.collection p)

theorem tooDeepOutside_nil_iff {room : Nat} :
    d.TooDeepOutside [] room (.collection p) ↔ d.TooDeep room (.collection p) := by
  constructor
  · rintro ⟨ps, u, hway, -, hroom⟩
    exact .collection hway hroom
  · rintro ⟨hway, hroom⟩
    exact ⟨_, _, hway, fun _ _ => List.not_mem_nil, hroom⟩

theorem tooDeepOutside_zero : d.TooDeepOutside around 0 v :=
  ⟨[], v, .here v, List.forall_mem_nil _, Nat.zero_le _⟩

theorem tooDeepOutside_scalar_iff {room : Nat} :
    d.TooDeepOutside around room (.scalar s) ↔ room ≤ s.layersInside := by
  constructor
  · rintro ⟨_, _, ⟨⟩, -, hroom⟩
    rwa [List.map_nil, List.sum_nil, Nat.zero_add] at hroom
  · intro hroom
    refine ⟨[], .scalar s, .here _, List.forall_mem_nil _, ?_⟩
    rwa [List.map_nil, List.sum_nil, Nat.zero_add]

/-- **A collection goes as deep as its members do** without it, and the texts around these. -/
theorem tooDeepOutside_collection_iff {n : Nat} :
    d.TooDeepOutside around (n + 1) (.collection p) ↔
      p ∉ around ∧ ∃ w, d.Contains (.collection p) w ∧
        d.TooDeepOutside (p :: around) (n + 1 - d.layersAt p) w := by
  constructor
  · rintro ⟨_, u, ⟨⟩ | ⟨hmember, hp, hway⟩, hout, hroom⟩
    · exact absurd hroom (Nat.not_succ_le_zero n)
    · obtain ⟨hpout, hout⟩ := List.forall_mem_cons.1 hout
      refine ⟨hpout, _, hmember, _, u, hway, fun q hq hmem => ?_, ?_⟩
      · rcases List.mem_cons.1 hmem with rfl | hmem
        · exact hp hq
        · exact hout q hq hmem
      · rw [List.map_cons, List.sum_cons] at hroom
        omega
  · rintro ⟨hp, w, hmember, ps, u, hway, hout, hroom⟩
    refine ⟨p :: ps, u, .member hmember (fun hps => ?_) hway, ?_, ?_⟩
    · exact hout p hps List.mem_cons_self
    · refine List.forall_mem_cons.2 ⟨hp, fun q hq hmem => ?_⟩
      exact hout q hq (List.mem_cons_of_mem p hmem)
    · rw [List.map_cons, List.sum_cons]
      omega

/-- Whether there is a way to a number that is too long or to something too deep, and it does not go
    through some collections. -/
def NoTextOutside (d : Document) (around : List Nat) (room : Nat) (v : Value) : Prop :=
  d.HoldsLongOutside around v ∨ d.TooDeepOutside around room v

theorem noTextOutside_collection_iff {n : Nat} :
    d.NoTextOutside around (n + 1) (.collection p) ↔
      p ∉ around ∧ ∃ w, d.Contains (.collection p) w ∧
        d.NoTextOutside (p :: around) (n + 1 - d.layersAt p) w := by
  simp only [NoTextOutside, holdsLongOutside_collection_iff, tooDeepOutside_collection_iff,
    ← and_or_left, ← exists_or]

/-! ## Listing -/

theorem paired_noTextIff {between : Text} {a b : Except TextError Text} {P Q : Prop}
    (ha : NoTextIff P a) (hb : NoTextIff Q b) : NoTextIff (P ∨ Q) (paired between a b) := by
  have heq : paired between a b = a.bind fun x => b.map fun y => x ++ between ++ y := by
    cases a <;> cases b <;> rfl
  rw [heq]
  exact ha.bind fun x => hb.map _

/-- What holds of a member of a collection of entries holds of the key or the value of an entry. -/
theorem exists_mem_keys_values_iff {α : Type} {P : Value → Prop} {es : List α} {key value : α → Value} :
    (∃ w ∈ es.flatMap fun e => [key e, value e], P w) ↔ ∃ e ∈ es, P (key e) ∨ P (value e) := by
  constructor
  · rintro ⟨w, hw, hP⟩
    obtain ⟨e, he, hmem⟩ := List.mem_flatMap.1 hw
    rcases List.mem_pair.1 hmem with rfl | rfl
    · exact ⟨e, he, .inl hP⟩
    · exact ⟨e, he, .inr hP⟩
  · rintro ⟨e, he, hP | hP⟩
    · exact ⟨_, List.mem_flatMap.2 ⟨e, he, List.mem_cons_self⟩, hP⟩
    · exact ⟨_, List.mem_flatMap.2 ⟨e, he, List.mem_cons_of_mem _ List.mem_cons_self⟩, hP⟩

/-- The texts of entries are there if those of their keys and values are. -/
theorem allOf_paired_noTextIff {α : Type} {listed : Value → Except TextError Text}
    {P : Value → Prop} {es : List α} {key value : α → Value} (between : Text) (f : Text → Text)
    (h : ∀ w ∈ es.flatMap fun e => [key e, value e], NoTextIff (P w) (listed w)) :
    NoTextIff (∃ w ∈ es.flatMap fun e => [key e, value e], P w)
      (allOf (es.map fun e => (paired between (listed (key e)) (listed (value e))).map f)) := by
  have hes : ∀ e ∈ es, NoTextIff (P (key e) ∨ P (value e))
      ((paired between (listed (key e)) (listed (value e))).map f) := by
    intro e he
    have hkey : key e ∈ es.flatMap fun e => [key e, value e] :=
      List.mem_flatMap.2 ⟨e, he, List.mem_cons_self⟩
    have hvalue : value e ∈ es.flatMap fun e => [key e, value e] :=
      List.mem_flatMap.2 ⟨e, he, List.mem_cons_of_mem _ List.mem_cons_self⟩
    exact (paired_noTextIff (h _ hkey) (h _ hvalue)).map f
  exact (FailsIff.allOf hes).congr exists_mem_keys_values_iff.symm

/-- **The text of a collection** is there if those of its members are. -/
theorem textOf_noTextIff {listed : Value → Except TextError Text} {P : Value → Prop} {c : Collection}
    (h : ∀ w ∈ c.members, NoTextIff (P w) (listed w)) :
    NoTextIff (∃ w ∈ c.members, P w) (textOf listed c) := by
  cases c with
  | list vs => exact (FailsIff.allOf h).map _
  | pairs es => exact (allOf_paired_noTextIff _ _ h).map _
  | set ks =>
    cases ks with
    | nil => exact .succeeds _ (by simp [Collection.members])
    | cons k ks =>
      have hks := FailsIff.allOf h
      rw [Collection.members, List.map_map] at hks
      exact hks.map _
  | mapping es =>
    have hes := allOf_paired_noTextIff [':', ' '] id h
    simp only [Except.map_id, id_eq] at hes
    exact hes.map _

/-- **Listing** fails if there is a way to a number that is too long, or to something too deep. -/
theorem listedWithin_noTextIff (d : Document) (around : List Nat) (room : Nat) (v : Value) :
    NoTextIff (d.NoTextOutside around room v) (d.listedWithin room around v) := by
  -- on the room, which every collection makes smaller
  induction room using Nat.strong_induction_on generalizing around v with
  | _ room ih =>
    cases room with
    | zero =>
      rw [listedWithin_zero]
      exact .fails (.inr rfl) (.inr tooDeepOutside_zero)
    | succ n =>
      cases v with
      | scalar s =>
        rw [listedWithin_scalar, NoTextOutside, holdsLongOutside_scalar_iff,
          tooDeepOutside_scalar_iff]
        exact s.listedWithin_noTextIff _
      | collection p =>
        cases hc : d.collections[p]? with
        | none =>
          rw [listedWithin, hc]
          refine .succeeds _ fun hno => ?_
          obtain ⟨-, w, ⟨c, hcontent, -⟩, -⟩ := noTextOutside_collection_iff.1 hno
          rw [content?, hc] at hcontent
          cases hcontent
        | some c =>
          by_cases hp : p ∈ around
          · rw [listedWithin, hc]
            dsimp only
            rw [if_pos (by simpa using hp)]
            exact .succeeds _ fun hno => (noTextOutside_collection_iff.1 hno).1 hp
          · have hlayers : d.layersAt p = layers c := by rw [layersAt, hc]; rfl
            have hless : n + 1 - layers c < n + 1 := by
              have hpos := layers_pos c
              omega
            rw [listedWithin_collection hc hp]
            refine (textOf_noTextIff fun w _ => ih _ hless (p :: around) w).congr ?_
            rw [noTextOutside_collection_iff, and_iff_right hp, hlayers]
            exact exists_congr fun w => and_congr_left fun _ => (contains_collection_iff hc).symm

/-- Whether a value holds a number that is too long, or goes too deep. -/
def Unshown (d : Document) (room : Nat) (v : Value) : Prop := d.HoldsLong v ∨ d.TooDeep room v

/-- **A value has no text** if, and only if, it holds a number that is too long or goes too deep. -/
theorem shown_noTextIff (d : Document) (room : Nat) (v : Value) :
    NoTextIff (d.Unshown room v) (d.shown room v) := by
  rw [Unshown, ← holdsLongOutside_nil_iff]
  cases v with
  | scalar s =>
    have hflat : ¬ d.TooDeep room (.scalar s) := nofun
    rw [or_iff_left hflat, holdsLongOutside_scalar_iff]
    exact noTextIff_mapError s.shown_noTextIff
  | collection p =>
    rw [← tooDeepOutside_nil_iff]
    exact d.listedWithin_noTextIff [] room (.collection p)

end Document

end Yaml

end Respell
