/-
  Edit sets mean the same in every order.

  1. **The rule.**  `check` walks over the sorted set with the end of the last edit in its hand.  The
     law says nothing of a walk: every edit lies inside the text (`Inside`), and of any two, one has
     ended before the other starts (`Apart`).  `check_eq_ok_iff` is that the two agree.

  2. **The crux** (`apart_iff_ordered`).  For edits in order, "one of the two has ended" can only mean
     the first.  The one case to think about is a tie: two edits that start together and are apart
     are both insertions, and then either has ended before the other starts.

  3. **The result.**  `splice` copies the text from left to right.  Carrying the edits out one by one,
     the last first, gives the same text (`splice_drop`), because an edit leaves alone all that
     stands in front of it (`take_carryOut`).

  4. **Permutations.**  Only the offsets decide whether a set is refused and with which words, and
     sorted offsets do not depend on the order of the list.  A set that is good can only be sorted in
     two ways if two of its insertions stand at one place.
-/
import Respell.Edit
import Mathlib.Algebra.BigOperators.Group.List.Basic
import Mathlib.Algebra.Ring.Int.Defs
import Mathlib.Data.List.Pairwise

namespace Respell.Edit

/-! ## The law for edit sets -/

/-- Whether an edit lies inside a text of length `n`. -/
def Inside (n : Nat) (e : Edit) : Prop := 0 ≤ e.start ∧ e.start ≤ e.stop ∧ e.stop ≤ n

/-- Whether one of two edits has ended before the other starts. -/
def Apart (e f : Edit) : Prop := e.stop ≤ f.start ∨ f.stop ≤ e.start

/-- Whether an edit replaces nothing and only puts something in. -/
def IsInsertion (e : Edit) : Prop := e.start = e.stop

/-- The text that one edit makes of a text. -/
def carryOut (e : Edit) (t : Text) : Text :=
  t.take e.start.toNat ++ e.replacement ++ t.drop e.stop.toNat

/-- The text that edits make of a text, carried out one by one from the last to the first. -/
def carryOutAll (es : List Edit) (t : Text) : Text := es.foldr carryOut t

/-- By how many characters an edit makes a text longer. -/
def growth (e : Edit) : Int := e.replacement.length - (e.stop - e.start)

instance (n : Nat) (e : Edit) : Decidable (Inside n e) := by unfold Inside; infer_instance
instance (e f : Edit) : Decidable (Apart e f) := by unfold Apart; infer_instance
instance (e : Edit) : Decidable (IsInsertion e) := by unfold IsInsertion; infer_instance

theorem Apart.symm {e f : Edit} (h : Apart e f) : Apart f e := Or.symm h

/-! ## The order of an edit set -/

theorem le_iff {a b : Edit} :
    le a b = true ↔ a.start < b.start ∨ (a.start = b.start ∧ a.stop ≤ b.stop) := by
  simp [le]

theorem le_trans (a b c : Edit) (hab : le a b = true) (hbc : le b c = true) : le a c = true := by
  rw [le_iff] at *
  omega

theorem le_total (a b : Edit) : (le a b || le b a) = true := by
  rw [Bool.or_eq_true, le_iff, le_iff]
  omega

theorem sorted_eq_mergeSort (es : List Edit) : sorted es = es.mergeSort le :=
  sortBy_eq_mergeSort le_trans le_total es

theorem sorted_perm (es : List Edit) : (sorted es).Perm es :=
  sorted_eq_mergeSort es ▸ List.mergeSort_perm es le

theorem pairwise_sorted (es : List Edit) : (sorted es).Pairwise (le · ·) :=
  sorted_eq_mergeSort es ▸ List.pairwise_mergeSort le_trans le_total es

/-- Two edits that come before each other stand at the same offsets. -/
theorem offsets_eq_of_le_of_le {a b : Edit} (hab : le a b = true) (hba : le b a = true) :
    a.start = b.start ∧ a.stop = b.stop := by
  rw [le_iff] at *
  omega

/-- **Sorting is stable.**  Edits at the same two offsets keep the order of the list. -/
theorem filter_sorted (es : List Edit) (i j : Int) :
    (sorted es).filter (fun e => e.start = i ∧ e.stop = j) =
      es.filter fun e => e.start = i ∧ e.stop = j := by
  -- they are in order as they stand, so the sorted list has them in this order
  have hpair : (es.filter fun e => e.start = i ∧ e.stop = j).Pairwise (le · ·) := by
    refine List.pairwise_of_forall_mem_list fun a ha b hb => ?_
    have ha' := List.of_mem_filter ha
    have hb' := List.of_mem_filter hb
    rw [decide_eq_true_eq] at ha' hb'
    rw [le_iff]
    omega
  have hsub : (es.filter fun e => e.start = i ∧ e.stop = j).Sublist (sorted es) :=
    sorted_eq_mergeSort es ▸ List.sublist_mergeSort le_trans le_total hpair List.filter_sublist
  have hsub' := hsub.filter fun e => e.start = i ∧ e.stop = j
  simp only [List.filter_filter, Bool.and_self] at hsub'
  exact (hsub'.eq_of_length ((sorted_perm es).filter _).length_eq.symm).symm

/-! ## What the walk over a sorted set checks -/

/-- The walk succeeds if every edit lies inside the text and behind all in front of it. -/
theorem checkFrom_eq_ok_iff {n : Nat} : ∀ {es : List Edit} {pos : Int},
    checkFrom n pos es = .ok () ↔
      (∀ e ∈ es, Inside n e ∧ pos ≤ e.start) ∧ es.Pairwise (fun e f => e.stop ≤ f.start)
  | [], pos => by simp [checkFrom]
  | e :: es, pos => by
    unfold checkFrom
    have ih : checkFrom n e.stop es = .ok () ↔ _ := checkFrom_eq_ok_iff
    rw [List.forall_mem_cons, List.pairwise_cons]
    split
    · rename_i hout
      simp only [reduceCtorEq, false_iff]
      rintro ⟨⟨⟨hin, _⟩, _⟩, _⟩
      obtain ⟨h₁, h₂, h₃⟩ := hin
      omega
    · rename_i hin
      have hin' : Inside n e := ⟨by omega, by omega, by omega⟩
      split
      · rename_i hlt
        simp only [reduceCtorEq, false_iff]
        rintro ⟨⟨⟨_, hpos⟩, _⟩, _⟩
        omega
      · rename_i hpos
        rw [ih]
        constructor
        · rintro ⟨hall, hpair⟩
          refine ⟨⟨⟨hin', by omega⟩, fun f hf => ⟨(hall f hf).1, ?_⟩⟩, ?_, hpair⟩
          · have := (hall f hf).2
            have := hin'.2.1
            omega
          · exact fun f hf => (hall f hf).2
        · rintro ⟨⟨_, hall⟩, hbehind, hpair⟩
          exact ⟨fun f hf => ⟨(hall f hf).1, hbehind f hf⟩, hpair⟩

/-- **The crux.**  Two edits in order are apart only if the first has ended before the second
    starts: if they start together, both are insertions. -/
theorem apart_iff_ordered {n : Nat} {e f : Edit} (hle : le e f = true) (he : Inside n e)
    (hf : Inside n f) : Apart e f ↔ e.stop ≤ f.start := by
  obtain ⟨_, he₂, _⟩ := he
  obtain ⟨_, hf₂, _⟩ := hf
  rw [le_iff] at hle
  unfold Apart
  omega

/-- A set is good if its edits lie inside the text and any two of them are apart. -/
theorem checkFrom_sorted_eq_ok_iff (n : Nat) (es : List Edit) :
    checkFrom n 0 (sorted es) = .ok () ↔ (∀ e ∈ es, Inside n e) ∧ es.Pairwise Apart := by
  have hperm := sorted_perm es
  have hmem : (∀ e ∈ sorted es, Inside n e ∧ 0 ≤ e.start) ↔ ∀ e ∈ es, Inside n e :=
    ⟨fun h e he => (h e (hperm.mem_iff.2 he)).1,
      fun h e he => ⟨h e (hperm.mem_iff.1 he), (h e (hperm.mem_iff.1 he)).1⟩⟩
  rw [checkFrom_eq_ok_iff, hmem, ← hperm.pairwise_iff Apart.symm]
  refine and_congr_right fun hin => ?_
  have hin' : ∀ e ∈ sorted es, Inside n e := fun e he => hin e (hperm.mem_iff.1 he)
  constructor
  · intro h
    exact h.imp Or.inl
  · intro h
    refine (h.and (pairwise_sorted es)).imp_of_mem fun he hf hef => ?_
    exact (apart_iff_ordered hef.2 (hin' _ he) (hin' _ hf)).1 hef.1

theorem check_eq_ok {t : Text} {es s : List Edit} (h : check t es = .ok s) :
    s = sorted es ∧ checkFrom t.length 0 (sorted es) = .ok () := by
  unfold check at h
  cases hc : checkFrom t.length 0 (sorted es) with
  | error e => rw [hc] at h; simp [Except.map] at h
  | ok u => rw [hc] at h; exact ⟨by simpa [Except.map] using h.symm, rfl⟩

/-- **Walk and law agree.** -/
theorem check_eq_ok_iff (t : Text) (es : List Edit) :
    (∃ s, check t es = .ok s) ↔ (∀ e ∈ es, Inside t.length e) ∧ es.Pairwise Apart := by
  rw [← checkFrom_sorted_eq_ok_iff]
  constructor
  · rintro ⟨s, h⟩
    exact (check_eq_ok h).2
  · intro h
    exact ⟨sorted es, by rw [check, h]; rfl⟩

/-- Edits that pass the walk are in order already. -/
theorem check_of_checkFrom {t : Text} {es : List Edit} (h : checkFrom t.length 0 es = .ok ()) :
    check t es = .ok es := by
  obtain ⟨hin, hpair⟩ := checkFrom_eq_ok_iff.1 h
  have hsorted : sorted es = es := by
    rw [sorted_eq_mergeSort]
    refine List.mergeSort_of_pairwise (hpair.imp_of_mem fun {e f} he hf hef => ?_)
    have hle := (hin e he).1.2.1
    have hlf := (hin f hf).1.2.1
    exact le_iff.2 (by omega)
  rw [check, hsorted, h]
  rfl

/-! ## Carrying edits out one by one -/

/-- An edit leaves alone what stands in front of it. -/
theorem take_carryOut {e : Edit} {t : Text} {k : Nat} (hk : (k : Int) ≤ e.start)
    (hlen : k ≤ t.length) : (e.carryOut t).take k = t.take k := by
  have hk' : k ≤ (t.take e.start.toNat).length := by
    rw [List.length_take]
    omega
  rw [carryOut, List.append_assoc, List.take_append_of_le_length hk', List.take_take,
    Nat.min_eq_left (by omega)]

/-- Edits leave alone what stands in front of all of them. -/
theorem take_carryOutAll {t : Text} {k : Nat} (hlen : k ≤ t.length) :
    ∀ {es : List Edit}, (∀ e ∈ es, (k : Int) ≤ e.start) → (carryOutAll es t).take k = t.take k
  | [], _ => rfl
  | e :: es, h => by
    have ih : (carryOutAll es t).take k = t.take k :=
      take_carryOutAll hlen fun f hf => h f (List.mem_cons_of_mem _ hf)
    have hlen' : k ≤ (carryOutAll es t).length := by
      have := congrArg List.length ih
      rw [List.length_take, List.length_take] at this
      omega
    show (e.carryOut (carryOutAll es t)).take k = _
    rw [take_carryOut (h e List.mem_cons_self) hlen', ih]

/-- Copying a text from `pos` on gives what carrying the edits out one by one gives from `pos` on.
    The induction is on the edits from the left; what the later ones did to the text is not seen in
    front of them. -/
theorem splice_drop {t : Text} : ∀ {es : List Edit} {pos : Nat},
    (∀ e ∈ es, Inside t.length e ∧ (pos : Int) ≤ e.start) →
    es.Pairwise (fun e f => e.stop ≤ f.start) →
    splice pos (t.drop pos) es = (carryOutAll es t).drop pos
  | [], pos, _, _ => rfl
  | e :: es, pos, hin, hpair => by
    obtain ⟨hbehind, hpair⟩ := List.pairwise_cons.1 hpair
    obtain ⟨⟨hpos, hle, hlen⟩, hstart⟩ := hin e List.mem_cons_self
    obtain ⟨i, hi⟩ := Int.eq_ofNat_of_zero_le hpos
    obtain ⟨j, hj⟩ := Int.eq_ofNat_of_zero_le (Int.le_trans hpos hle)
    have hrest : ∀ f ∈ es, Inside t.length f ∧ (j : Int) ≤ f.start := fun f hf =>
      ⟨(hin f (List.mem_cons_of_mem _ hf)).1, hj ▸ hbehind f hf⟩
    have hfront : (carryOutAll es t).take i = t.take i := by
      refine take_carryOutAll (by omega) fun f hf => ?_
      have := (hrest f hf).2
      omega
    have ih := splice_drop hrest hpair
    show (t.drop pos).take (e.start - pos).toNat ++ e.replacement ++
        splice e.stop ((t.drop pos).drop (e.stop - pos).toNat) es =
      ((carryOutAll es t).take e.start.toNat ++ e.replacement ++
        (carryOutAll es t).drop e.stop.toNat).drop pos
    have hi' : e.start.toNat = i := by omega
    have hj' : e.stop.toNat = j := by omega
    have hdrop : (t.drop pos).drop (e.stop - pos).toNat = t.drop j := by
      rw [List.drop_drop]
      congr 1
      omega
    have htake : (t.drop pos).take (e.start - pos).toNat = (t.take i).drop pos := by
      rw [List.drop_take]
      congr 1
      omega
    have hlong : pos ≤ (t.take i).length := by
      rw [List.length_take]
      omega
    rw [hi', hj', hfront, hdrop, htake, hj, ih, List.append_assoc, List.append_assoc,
      List.drop_append_of_le_length hlong]

/-- Each edit makes the text longer by its growth. -/
theorem length_splice : ∀ {es : List Edit} {t : Text} {pos : Int},
    (∀ e ∈ es, e.start ≤ e.stop ∧ e.stop ≤ pos + t.length ∧ pos ≤ e.start) →
    es.Pairwise (fun e f => e.stop ≤ f.start) →
    ((splice pos t es).length : Int) = t.length + (es.map growth).sum
  | [], t, pos, _, _ => by simp [splice]
  | e :: es, t, pos, hin, hpair => by
    obtain ⟨hbehind, hpair⟩ := List.pairwise_cons.1 hpair
    obtain ⟨hle, hlen, hpos⟩ := hin e List.mem_cons_self
    have hrest : ∀ f ∈ es, f.start ≤ f.stop ∧
        f.stop ≤ e.stop + (t.drop (e.stop - pos).toNat).length ∧ e.stop ≤ f.start := by
      intro f hf
      obtain ⟨hf₁, hf₂, _⟩ := hin f (List.mem_cons_of_mem _ hf)
      refine ⟨hf₁, ?_, hbehind f hf⟩
      rw [List.length_drop]
      omega
    have ih := length_splice hrest hpair
    rw [splice, List.length_append, List.length_append, List.length_take, List.map_cons,
      List.sum_cons, growth]
    rw [List.length_drop] at ih
    omega

/-- **A good set is its edits carried out one by one**, from the last to the first. -/
theorem splice_sorted {t : Text} {es : List Edit}
    (h : checkFrom t.length 0 (sorted es) = .ok ()) :
    splice 0 t (sorted es) = carryOutAll (sorted es) t := by
  obtain ⟨hin, hpair⟩ := checkFrom_eq_ok_iff.1 h
  exact splice_drop hin hpair

/-- A good set makes the text longer by the growth of its edits. -/
theorem length_splice_sorted {t : Text} {es : List Edit}
    (h : checkFrom t.length 0 (sorted es) = .ok ()) :
    ((splice 0 t (sorted es)).length : Int) = t.length + (es.map growth).sum := by
  obtain ⟨hin, hpair⟩ := checkFrom_eq_ok_iff.1 h
  rw [length_splice (fun e he => ?_) hpair, ((sorted_perm es).map growth).sum_eq]
  obtain ⟨⟨_, hle, hlen⟩, hpos⟩ := hin e he
  exact ⟨hle, by omega, hpos⟩

/-! ## Permutations -/

/-- The offsets of an edit. -/
def offsets (e : Edit) : Int × Int := (e.start, e.stop)

/-- Only the offsets decide whether a set is good and what is said if it is not. -/
theorem checkFrom_congr {n : Nat} : ∀ {es fs : List Edit} {pos : Int},
    es.map offsets = fs.map offsets → checkFrom n pos es = checkFrom n pos fs
  | [], fs, pos, h => by
    rw [List.map_nil, eq_comm, List.map_eq_nil_iff] at h
    rw [h]
  | e :: es, fs, pos, h => by
    cases fs with
    | nil => simp at h
    | cons f fs =>
      rw [List.map_cons, List.map_cons, List.cons.injEq] at h
      obtain ⟨hstart, hstop⟩ := Prod.mk.injEq .. ▸ h.1
      unfold checkFrom
      rw [hstart, hstop, checkFrom_congr h.2]

/-- The offsets of a sorted set do not depend on the order of the list. -/
theorem offsets_sorted {es fs : List Edit} (h : fs.Perm es) :
    (sorted fs).map offsets = (sorted es).map offsets := by
  have hperm : (sorted fs).Perm (sorted es) :=
    (sorted_perm fs).trans (h.trans (sorted_perm es).symm)
  have hsorted : ∀ gs : List Edit, ((sorted gs).map offsets).Pairwise fun p q =>
      p.1 < q.1 ∨ (p.1 = q.1 ∧ p.2 ≤ q.2) :=
    fun gs => List.pairwise_map.2 ((pairwise_sorted gs).imp le_iff.1)
  refine List.Perm.eq_of_pairwise ?_ (hsorted fs) (hsorted es) (hperm.map offsets)
  intro p q _ _ hpq hqp
  exact Prod.ext (by omega) (by omega)

/-- Two edits at the same offsets that are apart are both insertions. -/
theorem isInsertion_of_apart {n : Nat} {e f : Edit} (h : Apart e f) (he : Inside n e)
    (hf : Inside n f) (hstart : e.start = f.start) (hstop : e.stop = f.stop) :
    IsInsertion e ∧ IsInsertion f := by
  obtain ⟨_, he₂, _⟩ := he
  obtain ⟨_, hf₂, _⟩ := hf
  unfold Apart at h
  unfold IsInsertion
  omega

/-- **One order.**  A good set without two different insertions at one place can be sorted in one
    way only. -/
theorem sorted_eq_of_perm {n : Nat} {es fs : List Edit} (h : fs.Perm es)
    (hin : ∀ e ∈ es, Inside n e) (hpair : es.Pairwise Apart)
    (hins : ∀ e ∈ es, ∀ f ∈ es, IsInsertion e → IsInsertion f → e.start = f.start →
      e.replacement = f.replacement) :
    sorted fs = sorted es := by
  have hperm : (sorted fs).Perm (sorted es) :=
    (sorted_perm fs).trans (h.trans (sorted_perm es).symm)
  refine List.Perm.eq_of_pairwise (fun a b ha hb hab hba => ?_) (pairwise_sorted fs)
    (pairwise_sorted es) hperm
  have ha' : a ∈ es := (sorted_perm es).mem_iff.1 (hperm.mem_iff.1 ha)
  have hb' : b ∈ es := (sorted_perm es).mem_iff.1 hb
  obtain ⟨hstart, hstop⟩ := offsets_eq_of_le_of_le hab hba
  by_cases hne : a = b
  · exact hne
  · -- the same offsets at two places of the list, so both edits are insertions
    have : Std.Symm Apart := ⟨fun _ _ => Apart.symm⟩
    have hapart : Apart a b := hpair.forall ha' hb' hne
    obtain ⟨hea, heb⟩ := isInsertion_of_apart hapart (hin a ha') (hin b hb') hstart hstop
    have hrep := hins a ha' b hb' hea heb hstart
    cases a
    cases b
    simp_all

/-- **The order of the list does not matter**, neither for what is made of a text nor for why a set
    is refused. -/
theorem check_perm {t : Text} {es fs : List Edit} (h : fs.Perm es)
    (hins : ∀ e ∈ es, ∀ f ∈ es, IsInsertion e → IsInsertion f → e.start = f.start →
      e.replacement = f.replacement) :
    check t fs = check t es := by
  have hcheck : checkFrom t.length 0 (sorted fs) = checkFrom t.length 0 (sorted es) :=
    checkFrom_congr (offsets_sorted h)
  unfold check
  rw [hcheck]
  cases hc : checkFrom t.length 0 (sorted es) with
  | error x => rfl
  | ok u =>
    obtain ⟨hin, hpair⟩ := (checkFrom_sorted_eq_ok_iff _ es).1 hc
    rw [sorted_eq_of_perm h hin hpair hins]

/-! ## The meaning of an edit set -/

/-- **Edit sets have one meaning, whatever their order.**
    (1) A set is good if and only if every edit lies inside the text and any two are apart.
    (2) A good set is put in order by start and then by end, and edits at the same offsets keep the
        order of the list; applying it is carrying its edits out one by one from the last to the
        first, and makes the text longer by the growth of the edits.
    (3) A permutation of the list changes neither the result nor the refusal, if no two different
        insertions stand at one place. -/
theorem edit_set_meaning (t : Text) (es : List Edit) :
    ((∃ s, check t es = .ok s) ↔ (∀ e ∈ es, Inside t.length e) ∧ es.Pairwise Apart) ∧
    (∀ s, check t es = .ok s →
      s.Perm es ∧ s.Pairwise (fun e f => e.start < f.start ∨ (e.start = f.start ∧ e.stop ≤ f.stop)) ∧
      (∀ i j : Int, s.filter (fun e => e.start = i ∧ e.stop = j) =
        es.filter fun e => e.start = i ∧ e.stop = j) ∧
      ∃ u, applyAll t es = .ok u ∧ u = carryOutAll s t ∧
        (u.length : Int) = t.length + (es.map growth).sum) ∧
    (∀ fs, fs.Perm es →
      (∀ e ∈ es, ∀ f ∈ es, IsInsertion e → IsInsertion f → e.start = f.start →
        e.replacement = f.replacement) →
      check t fs = check t es ∧ applyAll t fs = applyAll t es) := by
  refine ⟨check_eq_ok_iff t es, fun s hs => ?_, fun fs h hins => ?_⟩
  · obtain ⟨rfl, hok⟩ := check_eq_ok hs
    refine ⟨sorted_perm es, (pairwise_sorted es).imp le_iff.1, filter_sorted es,
      splice 0 t (sorted es), ?_, splice_sorted hok, length_splice_sorted hok⟩
    rw [applyAll, hs]
    rfl
  · have hcheck := check_perm (t := t) h hins
    exact ⟨hcheck, by rw [applyAll, applyAll, hcheck]⟩

/-- Three edits that touch, in a list that is not in order. -/
theorem edit_set_meaning_touching :
    let t : Text := ['a', 'b', 'c', 'd']
    let es : List Edit := [⟨2, 3, ['Z']⟩, ⟨1, 1, ['X', 'Y']⟩, ⟨1, 2, []⟩]
    (∀ e ∈ es, Inside t.length e) ∧ es.Pairwise Apart ∧
      check t es = .ok [⟨1, 1, ['X', 'Y']⟩, ⟨1, 2, []⟩, ⟨2, 3, ['Z']⟩] ∧
      applyAll t es = .ok ['a', 'X', 'Y', 'Z', 'd'] ∧
      applyAll t es.reverse = applyAll t es := by
  intro t es
  have hcheck : check t es = .ok [⟨1, 1, ['X', 'Y']⟩, ⟨1, 2, []⟩, ⟨2, 3, ['Z']⟩] := by
    decide +kernel
  have hgood := (edit_set_meaning t es).1.1 ⟨_, hcheck⟩
  obtain ⟨_, _, _, u, hu, hone, _⟩ := (edit_set_meaning t es).2.1 _ hcheck
  have hins : ∀ e ∈ es, ∀ f ∈ es, IsInsertion e → IsInsertion f → e.start = f.start →
      e.replacement = f.replacement := by
    decide +kernel
  refine ⟨hgood.1, hgood.2, hcheck, ?_,
    ((edit_set_meaning t es).2.2 es.reverse (List.reverse_perm es) hins).2⟩
  rw [hu, hone]
  decide +kernel

end Respell.Edit
