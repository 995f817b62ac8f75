/-
  Going round the literals.

  One key goes to the next literal and another to the one before.  The searches behind them are not each
  other's mirror image: the one compares an offset with where literals start, the other with where they
  end, and each has a way of its own of going round.  This file proves that they walk the same cycle, one
  in each direction.

  1. **What the searches find** (`next?_eq_some_iff`, `previous?_eq_some_iff`), from any offset: of the
     literals behind it the one that starts first, and of those in front of it the one that ends last.

  2. **Neighbours** (`Neighbours`).  One literal comes after another if it stands right behind it, or is
     the first one while the other is the last.  As no two literals touch, the one search goes from a
     literal to the one after it, and the other goes back.

  3. **Numbers** (`counted?`).  Counting the literals on past the last and back past the first turns
     neighbours into numbers that differ by one (`neighbours_counted`).

  4. **Runs** (`pressAll_replicate`).  A cursor that is sent to a literal stands on it, so each further
     press of a key adds its step to the number.  In as many presses as there are literals, all of them
     have had their turn (`turn_unique`).
-/
import Mathlib.Tactic.LinearCombination
import Respell.Proofs.Places
import Respell.Proofs.Presses
import Respell.Proofs.Touching

namespace Respell

open Literal (scan pairwise_of_scan start_le_stop)

namespace Navigation

variable {ls as bs : List Literal} {l m : Literal} {o i j : Int}

/-! ## What the searches find -/

theorem apart_around (hls : (as ++ l :: bs).Pairwise fun l m => l.stop < m.start) :
    (∀ x ∈ as, x.stop < l.start) ∧ ∀ x ∈ bs, l.stop < x.start := by
  obtain ⟨-, hright, hleft⟩ := List.pairwise_append.1 hls
  exact ⟨fun x hx => hleft x hx l List.mem_cons_self, (List.pairwise_cons.1 hright).1⟩

theorem next?_eq (ls : List Literal) (o : Int) :
    next? ls o = (ls.filter fun x => o < x.start).head?.or ls.head? := by
  rw [next?, List.head?_filter]
  cases ls.find? fun x => o < x.start <;> rfl

section Searches

variable (hls : ls.Pairwise fun l m => l.stop < m.start)
include hls

/-- The first literal is the one that starts first. -/
theorem head?_eq_some_iff : ls.head? = some l ↔ l ∈ ls ∧ ∀ x ∈ ls, l.start ≤ x.start := by
  constructor
  · intro hhead
    obtain ⟨bs, rfl⟩ := List.head?_eq_some_iff.1 hhead
    refine ⟨List.mem_cons_self, fun x hx => ?_⟩
    rcases List.mem_cons.1 hx with rfl | hx
    · exact Nat.le_refl _
    · have hlt := (List.pairwise_cons.1 hls).1 x hx
      have hstart := l.start_le_stop
      omega
  · rintro ⟨hl, hleast⟩
    obtain ⟨as, bs, rfl⟩ := List.append_of_mem hl
    cases as with
    | nil => rfl
    | cons y as =>
      -- what stands in front would start earlier
      have hle := hleast y List.mem_cons_self
      have hlt := (apart_around hls).1 y List.mem_cons_self
      have hstart := y.start_le_stop
      omega

/-- The last literal is the one that ends last. -/
theorem getLast?_eq_some_iff : ls.getLast? = some l ↔ l ∈ ls ∧ ∀ x ∈ ls, x.stop ≤ l.stop := by
  have hstart := l.start_le_stop
  constructor
  · intro hlast
    obtain ⟨as, rfl⟩ := List.getLast?_eq_some_iff.1 hlast
    refine ⟨List.mem_concat_self, fun x hx => ?_⟩
    rcases List.mem_append.1 hx with hx | hx
    · have hlt := (apart_around hls).1 x hx
      omega
    · obtain rfl := List.mem_singleton.1 hx
      exact Nat.le_refl _
  · rintro ⟨hl, hgreatest⟩
    obtain ⟨as, bs, rfl⟩ := List.append_of_mem hl
    cases bs with
    | nil => exact List.getLast?_concat
    | cons y bs =>
      -- what stands behind would end later
      have hle := hgreatest y (by simp)
      have hlt := (apart_around hls).2 y List.mem_cons_self
      have hstart' := y.start_le_stop
      omega

/-- Behind a literal that does not end in front of an offset there is none that does. -/
theorem takeWhile_eq_filter :
    (ls.takeWhile fun x => x.stop < o) = ls.filter fun x => x.stop < o := by
  induction ls with
  | nil => rfl
  | cons y ls ih =>
    obtain ⟨hbehind, hls⟩ := List.pairwise_cons.1 hls
    by_cases hy : y.stop < o
    · rw [List.takeWhile_cons_of_pos (by simpa using hy), List.filter_cons_of_pos (by simpa using hy),
        ih hls]
    · have hnone : ls.filter (fun x => x.stop < o) = [] := by
        refine List.filter_eq_nil_iff.2 fun x hx => ?_
        rw [decide_eq_true_eq]
        have hlt := hbehind x hx
        have hstart := x.start_le_stop
        omega
      rw [List.takeWhile_cons_of_neg (by simpa using hy), List.filter_cons_of_neg (by simpa using hy),
        hnone]

theorem previous?_eq (o : Int) :
    previous? ls o = (ls.filter fun x => x.stop < o).getLast?.or ls.getLast? := by
  rw [previous?, takeWhile_eq_filter hls]
  cases (ls.filter fun x => x.stop < o).getLast? <;> rfl

/-- **The next literal** is the one that starts least far behind an offset, or else the first. -/
theorem next?_eq_some_iff :
    next? ls o = some l ↔
      (l ∈ ls ∧ o < l.start ∧ ∀ x ∈ ls, o < x.start → l.start ≤ x.start) ∨
        (∀ x ∈ ls, x.start ≤ o) ∧ ls.head? = some l := by
  rw [next?_eq, Option.or_eq_some_iff, head?_eq_some_iff (hls.filter _), List.head?_eq_none_iff,
    List.filter_eq_nil_iff]
  simp [and_assoc]

/-- **The previous literal** is the one that ends least far in front of an offset, or else the last. -/
theorem previous?_eq_some_iff :
    previous? ls o = some l ↔
      (l ∈ ls ∧ l.stop < o ∧ ∀ x ∈ ls, x.stop < o → x.stop ≤ l.stop) ∨
        (∀ x ∈ ls, o ≤ x.stop) ∧ ls.getLast? = some l := by
  rw [previous?_eq hls, Option.or_eq_some_iff, getLast?_eq_some_iff (hls.filter _),
    List.getLast?_eq_none_iff, List.filter_eq_nil_iff]
  simp [and_assoc]

theorem exists_next? (hne : ls ≠ []) (o : Int) : ∃ l ∈ ls, next? ls o = some l := by
  cases hnext : next? ls o with
  | none =>
    rw [next?_eq, Option.or_eq_none_iff, List.head?_eq_none_iff, List.head?_eq_none_iff] at hnext
    exact absurd hnext.2 hne
  | some l =>
    refine ⟨l, ?_, rfl⟩
    rcases (next?_eq_some_iff hls).1 hnext with ⟨hl, -⟩ | ⟨-, hfirst⟩
    · exact hl
    · exact List.mem_of_head? hfirst

theorem exists_previous? (hne : ls ≠ []) (o : Int) : ∃ l ∈ ls, previous? ls o = some l := by
  cases hprevious : previous? ls o with
  | none =>
    rw [previous?_eq hls, Option.or_eq_none_iff, List.getLast?_eq_none_iff,
      List.getLast?_eq_none_iff] at hprevious
    exact absurd hprevious.2 hne
  | some l =>
    refine ⟨l, ?_, rfl⟩
    rcases (previous?_eq_some_iff hls).1 hprevious with ⟨hl, -⟩ | ⟨-, hlast⟩
    · exact hl
    · exact List.mem_of_getLast? hlast

end Searches

/-! ## Neighbours -/

/-- Whether a literal `m` comes after a literal `l` in the cycle: right behind it, or as the first one
    after the last. -/
inductive Neighbours (ls : List Literal) (l m : Literal) : Prop where
  | inside (as bs : List Literal) : ls = as ++ l :: m :: bs → Neighbours ls l m
  | around (as bs : List Literal) : ls = as ++ [l] → ls = m :: bs → Neighbours ls l m

/-- Between a literal and the one right behind it there is no other. -/
theorem outside_of_inside (hls : (as ++ l :: m :: bs).Pairwise fun l m => l.stop < m.start)
    {x : Literal} (hx : x ∈ as ++ l :: m :: bs) :
    (x.start ≤ l.start ∧ x.stop ≤ l.stop) ∨ (m.start ≤ x.start ∧ m.stop ≤ x.stop) := by
  have hlstart := l.start_le_stop
  have hmstart := m.start_le_stop
  have hxstart := x.start_le_stop
  rcases List.mem_append.1 hx with hx | hx
  · have hlt := (apart_around hls).1 x hx
    omega
  · rcases List.mem_cons.1 hx with rfl | hx
    · omega
    · rcases List.mem_cons.1 hx with rfl | hx
      · omega
      · rw [← List.singleton_append, ← List.append_assoc] at hls
        have hlt := (apart_around hls).2 x hx
        omega

/-- From the start of a literal, the next one is the one after it. -/
theorem next?_of_neighbours (hls : ls.Pairwise fun l m => l.stop < m.start) (h : Neighbours ls l m) :
    next? ls l.start = some m := by
  refine (next?_eq_some_iff hls).2 ?_
  cases h with
  | inside as bs hsplit =>
    subst hsplit
    have hlm := (apart_around hls).2 m List.mem_cons_self
    have hlstart := l.start_le_stop
    refine .inl ⟨by simp, by omega, fun x hx hlx => ?_⟩
    have hout := outside_of_inside hls hx
    omega
  | around as bs hlast hfirst =>
    refine .inr ⟨fun x hx => ?_, by rw [hfirst, List.head?_cons]⟩
    rw [hlast] at hls hx
    rcases List.mem_append.1 hx with hx | hx
    · have hlt := (apart_around hls).1 x hx
      have hxstart := x.start_le_stop
      omega
    · obtain rfl := List.mem_singleton.1 hx
      exact Int.le_refl _

/-- **From the start of the one after a literal, the previous one is the literal.** -/
theorem previous?_of_neighbours (hls : ls.Pairwise fun l m => l.stop < m.start)
    (h : Neighbours ls l m) : previous? ls m.start = some l := by
  refine (previous?_eq_some_iff hls).2 ?_
  have hmstart := m.start_le_stop
  cases h with
  | inside as bs hsplit =>
    subst hsplit
    have hlm := (apart_around hls).2 m List.mem_cons_self
    refine .inl ⟨by simp, by omega, fun x hx hxm => ?_⟩
    have hout := outside_of_inside hls hx
    omega
  | around as bs hlast hfirst =>
    refine .inr ⟨fun x hx => ?_, by rw [hlast, List.getLast?_concat]⟩
    have hleast := ((head?_eq_some_iff hls).1 (by rw [hfirst, List.head?_cons])).2 x hx
    have hxstart := x.start_le_stop
    omega

/-! ## Numbers -/

/-- The literal with a number, counting on past the last one and back past the first. -/
def counted? (ls : List Literal) (i : Int) : Option Literal := ls[(i % ls.length).toNat]?

theorem counted?_of_getElem? {n : Nat} (h : ls[n]? = some l) : counted? ls n = some l := by
  obtain ⟨hn, -⟩ := List.getElem?_eq_some_iff.1 h
  rw [counted?, Int.emod_eq_of_lt (by omega) (by omega), Int.toNat_natCast, h]

/-- What is left of a number when whole rounds are taken off. -/
theorem exists_emod {k : Nat} (hpos : 0 < k) (i : Int) : ∃ n : Nat, n < k ∧ i % k = n := by
  have hlow := Int.emod_nonneg i (b := k) (by omega)
  have hhigh := Int.emod_lt_of_pos i (b := k) (by omega)
  exact ⟨(i % k).toNat, by omega, by omega⟩

theorem exists_counted? (hne : ls ≠ []) (i : Int) : ∃ l ∈ ls, counted? ls i = some l := by
  obtain ⟨n, hn, hi⟩ := exists_emod (List.length_pos_iff.2 hne) i
  refine ⟨ls[n], List.getElem_mem hn, ?_⟩
  rw [counted?, hi, Int.toNat_natCast, List.getElem?_eq_getElem hn]

theorem mem_of_counted? (h : counted? ls i = some l) : l ∈ ls := List.mem_of_getElem? h

/-- A literal has one number, but for whole rounds. -/
theorem emod_eq_of_counted? (hls : ls.Pairwise fun l m => l.stop < m.start)
    (hi : counted? ls i = some l) (hj : counted? ls j = some l) : i % ls.length = j % ls.length := by
  have hpos : 0 < ls.length := List.length_pos_of_mem (mem_of_counted? hi)
  obtain ⟨n, -, hn⟩ := exists_emod hpos i
  obtain ⟨k, -, hk⟩ := exists_emod hpos j
  rw [counted?, hn, Int.toNat_natCast] at hi
  rw [counted?, hk, Int.toNat_natCast] at hj
  have hstart : (l.start : Int) ≤ l.start ∧ (l.start : Int) ≤ l.stop := by
    have hle := l.start_le_stop
    omega
  rw [hn, hk, Literal.index_unique hls hi hj hstart hstart]

/-- **The numbers of neighbours differ by one.** -/
theorem neighbours_counted (hi : counted? ls i = some l) (hm : counted? ls (i + 1) = some m) :
    Neighbours ls l m := by
  obtain ⟨n, hn, hin⟩ := exists_emod (List.length_pos_of_mem (mem_of_counted? hi)) i
  rw [counted?, hin, Int.toNat_natCast] at hi
  rw [counted?, ← Int.emod_add_emod, hin] at hm
  obtain ⟨-, rfl⟩ := List.getElem?_eq_some_iff.1 hi
  have hsplit : ls = ls.take n ++ ls[n] :: ls.drop (n + 1) := by
    rw [← List.drop_eq_getElem_cons hn, List.take_append_drop]
  by_cases hlt : n + 1 < ls.length
  · rw [Int.emod_eq_of_lt (by omega) (by omega)] at hm
    obtain ⟨_, hmn⟩ := List.getElem?_eq_some_iff.1 hm
    obtain rfl : ls[n + 1] = m := hmn
    refine .inside (ls.take n) (ls.drop (n + 1 + 1)) ?_
    rw [← List.drop_eq_getElem_cons hlt]
    exact hsplit
  · -- the last one and the first
    have hlast : n + 1 = ls.length := by omega
    have hzero : ((n : Int) + 1) % ls.length = 0 := by
      rw [← hlast]
      exact Int.emod_self
    rw [hzero, Int.toNat_zero, ← List.head?_eq_getElem?] at hm
    obtain ⟨bs, hfirst⟩ := List.head?_eq_some_iff.1 hm
    refine .around (ls.take n) bs ?_ hfirst
    rw [List.drop_eq_nil_of_le (by omega)] at hsplit
    exact hsplit

/-! ## The cursor -/

variable {d : Document}

theorem text_goTo (d : Document) (l : Literal) : (goTo d l).text = d.text := rfl

theorem goTo_goTo (d : Document) (l m : Literal) : goTo (goTo d l) m = goTo d m := rfl

theorem lines_ne_nil_of_scan (h : scan d.text = .ok ls) (hne : ls ≠ []) : d.lines ≠ [] := by
  intro hlines
  have hnil : scan d.text = .ok [] := by
    rw [Document.text, hlines, scan, Literal.readAll_eq, Literal.spellings]
    show allOf (List.map _ (Literal.spellingsFrom false 0 [])) = .ok []
    rw [Literal.spellingsFrom_nil]
    rfl
  exact hne (Except.ok.inj (h.symm.trans hnil))

/-- **A cursor that is sent to a literal stands at its start.** -/
theorem cursor_goTo (h : scan d.text = .ok ls) (hl : l ∈ ls) : (goTo d l).cursor = l.start := by
  have hstop : l.start + l.spelling.length ≤ d.text.length :=
    Literal.stop_le_of_mem_spellings (Literal.mem_of_scan h hl).1
  exact Document.cursor_moveTo (lines_ne_nil_of_scan h (List.ne_nil_of_mem hl)) (by omega)

theorem atCursor?_goTo (h : scan d.text = .ok ls) (hl : l ∈ ls) :
    atCursor? (goTo d l) = .ok (some l) := by
  rw [atCursor?, cursor_goTo h hl, text_goTo, Literal.at?_eq_some_iff h, Literal.touches_iff]
  have hstart := l.start_le_stop
  exact ⟨hl, by omega, by omega⟩

theorem afterCursor?_eq (h : scan d.text = .ok ls) : afterCursor? d = .ok (next? ls d.cursor) := by
  rw [afterCursor?, literals, h]
  rfl

theorem beforeCursor?_eq (h : scan d.text = .ok ls) :
    beforeCursor? d = .ok (previous? ls d.cursor) := by
  rw [beforeCursor?, literals, h]
  rfl

/-- From a literal the search for the next one counts on by one. -/
theorem afterCursor?_goTo (h : scan d.text = .ok ls) (hi : counted? ls i = some l) :
    afterCursor? (goTo d l) = .ok (counted? ls (i + 1)) := by
  have hl := mem_of_counted? hi
  obtain ⟨m, -, hm⟩ := exists_counted? (List.ne_nil_of_mem hl) (i + 1)
  have hnext := next?_of_neighbours (pairwise_of_scan h) (neighbours_counted hi hm)
  rw [afterCursor?_eq (d := goTo d l) h, cursor_goTo h hl, hnext, hm]

/-- From a literal the search for the previous one counts back by one. -/
theorem beforeCursor?_goTo (h : scan d.text = .ok ls) (hi : counted? ls i = some l) :
    beforeCursor? (goTo d l) = .ok (counted? ls (i - 1)) := by
  have hl := mem_of_counted? hi
  obtain ⟨m, -, hm⟩ := exists_counted? (List.ne_nil_of_mem hl) (i - 1)
  have hprevious := previous?_of_neighbours (pairwise_of_scan h)
    (neighbours_counted hm (by rwa [Int.sub_add_cancel]))
  rw [beforeCursor?_eq (d := goTo d l) h, cursor_goTo h hl, hprevious, hm]

/-! ## Turns -/

/-- The two ways round the cycle. -/
inductive Way where
  | onward
  | backward
  deriving DecidableEq, Repr

namespace Way

/-- The key that goes a way. -/
def key : Way → Int
  | onward => Command.control 'n'
  | backward => Command.control 'p'

/-- What its command looks for. -/
def search : Way → Document → Except NumeralError (Option Literal)
  | onward => afterCursor?
  | backward => beforeCursor?

/-- What it adds to the number of a literal. -/
def step : Way → Int
  | onward => 1
  | backward => -1

theorem search_goTo (w : Way) (h : scan d.text = .ok ls) (hi : counted? ls i = some l) :
    w.search (goTo d l) = .ok (counted? ls (i + w.step)) := by
  cases w with
  | onward => exact afterCursor?_goTo h hi
  | backward => exact beforeCursor?_goTo h hi

/-- Wherever the cursor is, some literal is found. -/
theorem exists_search (w : Way) (h : scan d.text = .ok ls) (hne : ls ≠ []) :
    ∃ i, w.search d = .ok (counted? ls i) := by
  have hls := pairwise_of_scan h
  have hfound : ∃ l ∈ ls, w.search d = .ok (some l) := by
    cases w with
    | onward =>
      obtain ⟨l, hl, hnext⟩ := exists_next? hls hne d.cursor
      exact ⟨l, hl, by rw [search, afterCursor?_eq h, hnext]⟩
    | backward =>
      obtain ⟨l, hl, hprevious⟩ := exists_previous? hls hne d.cursor
      exact ⟨l, hl, by rw [search, beforeCursor?_eq h, hprevious]⟩
  obtain ⟨l, hl, hsearch⟩ := hfound
  obtain ⟨n, hn⟩ := List.mem_iff_getElem?.1 hl
  exact ⟨n, by rw [hsearch, counted?_of_getElem? hn]⟩

theorem step_mul_step (w : Way) : w.step * w.step = 1 := by cases w <;> rfl

/-- In as many steps as there are numbers, any of them comes up. -/
theorem exists_turn (w : Way) {k : Nat} (hpos : 0 < k) (i j : Int) :
    ∃ n : Nat, n < k ∧ (i + n * w.step) % k = j % k := by
  obtain ⟨n, hn, hleft⟩ := exists_emod hpos ((j - i) * w.step)
  have hway := Int.mul_ediv_add_emod ((j - i) * w.step) k
  rw [hleft] at hway
  generalize (j - i) * w.step / k = q at hway
  have hrounds : i + n * w.step = j - k * (q * w.step) := by
    linear_combination w.step * hway + (j - i) * w.step_mul_step
  exact ⟨n, hn, by rw [hrounds, Int.sub_mul_emod_self_left]⟩

/-- In no more steps than there are numbers, none of them comes up twice. -/
theorem turn_inj (w : Way) {k n n' : Nat} (hn : n < k) (hn' : n' < k)
    (h : (i + n * w.step) % k = (i + n' * w.step) % k) : n = n' := by
  have hdvd : (k : Int) ∣ n - n' := by
    have hsub := Int.dvd_of_emod_eq_zero (Int.emod_eq_emod_iff_emod_sub_eq_zero.1 h)
    have hturn : (n : Int) - n' = (i + n * w.step - (i + n' * w.step)) * w.step := by
      linear_combination (n' - n) * w.step_mul_step
    exact hturn ▸ hsub.mul_right w.step
  have hzero := Int.eq_zero_of_abs_lt_dvd hdvd (abs_lt.2 ⟨by omega, by omega⟩)
  omega

/-- **Each literal has one turn** in as many steps as there are literals. -/
theorem turn_unique (w : Way) (hls : ls.Pairwise fun l m => l.stop < m.start) (hl : l ∈ ls) (i : Int) :
    ∃! n : Nat, n < ls.length ∧ counted? ls (i + n * w.step) = some l := by
  obtain ⟨k, hk⟩ := List.mem_iff_getElem?.1 hl
  have hnumber := counted?_of_getElem? hk
  obtain ⟨n, hn, hturn⟩ := w.exists_turn (List.length_pos_of_mem hl) i k
  have hfound : counted? ls (i + n * w.step) = some l := by rw [← hnumber, counted?, counted?, hturn]
  refine ⟨n, ⟨hn, hfound⟩, fun n' ⟨hn', hfound'⟩ => ?_⟩
  exact w.turn_inj hn' hn (emod_eq_of_counted? hls hfound' hfound)

end Way

end Navigation

namespace Editor

open Navigation

variable {e : Editor} {d d' : Document} {ls : List Literal} {l m : Literal} {i : Int}

theorem setDocument_setDocument (e : Editor) (d d' : Document) :
    (e.setDocument d).setDocument d' = e.setDocument d' := by
  simp only [setDocument, List.set_set]

theorem jump_eq_done (hd : e.document? = some d)
    {search : Document → Except NumeralError (Option Literal)} (hfound : search d = .ok (some l)) :
    e.jump search = .done (e.setDocument (goTo d l)) () := by
  rw [jump, withDocument, hd]
  simp only [hfound]

/-- A key that goes to a literal which is found. -/
theorem press_way (w : Way) (he : e.isConverting = false) (hd : e.document? = some d)
    (hfound : w.search d = .ok (some l)) (another : Int) :
    (e.press w.key another).state = e.setDocument (goTo d l) := by
  have hpress : ∃ goesOn, e.press w.key another = .done (e.setDocument (goTo d l)) goesOn := by
    cases w with
    | onward => exact press_command he hd another (c := .next) (by decide) rfl (jump_eq_done hd hfound)
    | backward =>
      exact press_command he hd another (c := .previous) (by decide) rfl (jump_eq_done hd hfound)
  obtain ⟨goesOn, hpress⟩ := hpress
  rw [hpress]
  rfl

theorem press_way_goTo (w : Way) (he : e.isConverting = false) (hd : e.document? = some d)
    (h : scan d.text = .ok ls) (hi : counted? ls i = some l) (hm : counted? ls (i + w.step) = some m)
    (another : Int) :
    ((e.setDocument (goTo d l)).press w.key another).state = e.setDocument (goTo d m) := by
  have hfound : w.search (goTo d l) = .ok (some m) := by rw [w.search_goTo h hi, hm]
  rw [press_way (e := e.setDocument (goTo d l)) w he (document?_setDocument hd _) hfound,
    setDocument_setDocument, goTo_goTo]

theorem pressAll_concat (e : Editor) (keys : List (Int × Int)) (k : Int × Int) :
    e.pressAll (keys ++ [k]) = ((e.pressAll keys).press k.1 k.2).state := by
  rw [pressAll, List.foldl_append]
  rfl

/-- **A run of one key** adds its step once for each press after the first. -/
theorem pressAll_replicate (w : Way) (he : e.isConverting = false) (hd : e.document? = some d)
    (h : scan d.text = .ok ls) (hne : ls ≠ []) (hi : w.search d = .ok (counted? ls i)) (another : Int)
    (n : Nat) :
    ∃ l, counted? ls (i + n * w.step) = some l ∧
      e.pressAll (List.replicate (n + 1) (w.key, another)) = e.setDocument (goTo d l) := by
  induction n with
  | zero =>
    obtain ⟨l, -, hl⟩ := exists_counted? hne i
    refine ⟨l, by simpa using hl, ?_⟩
    exact press_way w he hd (by rw [hi, hl]) another
  | succ n ih =>
    obtain ⟨l, hl, hrun⟩ := ih
    obtain ⟨m, -, hm⟩ := exists_counted? hne (i + n * w.step + w.step)
    refine ⟨m, ?_, ?_⟩
    · rw [← hm, Int.natCast_succ, Int.add_mul, Int.one_mul, Int.add_assoc]
    · rw [List.replicate_succ', pressAll_concat, hrun]
      exact press_way_goTo w he hd h hl hm another

theorem pressAll_opposite {w v : Way} (hopposite : w.step + v.step = 0) (he : e.isConverting = false)
    (hd : e.document? = some d) (h : scan d.text = .ok ls) (hi : counted? ls i = some l) (a b : Int) :
    (e.setDocument (goTo d l)).pressAll [(w.key, a), (v.key, b)] = e.setDocument (goTo d l) := by
  obtain ⟨m, -, hm⟩ := exists_counted? (List.ne_nil_of_mem (mem_of_counted? hi)) (i + w.step)
  have hback : counted? ls (i + w.step + v.step) = some l := by
    rw [Int.add_assoc, hopposite, Int.add_zero, hi]
  show (((e.setDocument (goTo d l)).press w.key a).state.press v.key b).state = _
  rw [press_way_goTo w he hd h hi hm, press_way_goTo v he hd h hm hback]

/-- The literal that a run has come to is the one with the number that it has counted to. -/
theorem atCursor?_pressAll_iff (w : Way) (he : e.isConverting = false) (hd : e.document? = some d)
    (h : scan d.text = .ok ls) (hne : ls ≠ []) (hi : w.search d = .ok (counted? ls i)) (another : Int)
    (n : Nat) :
    (e.pressAll (List.replicate (n + 1) (w.key, another))).document?.map atCursor? =
      some (.ok (some l)) ↔ counted? ls (i + n * w.step) = some l := by
  obtain ⟨m, hm, hrun⟩ := pressAll_replicate w he hd h hne hi another n
  rw [hrun, document?_setDocument hd, Option.map_some, atCursor?_goTo h (mem_of_counted? hm), hm,
    Option.some.injEq, Except.ok.injEq]

theorem visit_unique (w : Way) (he : e.isConverting = false) (hd : e.document? = some d)
    (h : scan d.text = .ok ls) (hl : l ∈ ls) (another : Int) :
    ∃! n : Nat, n < ls.length ∧
      (e.pressAll (List.replicate (n + 1) (w.key, another))).document?.map atCursor? =
        some (.ok (some l)) := by
  have hne : ls ≠ [] := List.ne_nil_of_mem hl
  obtain ⟨i, hi⟩ := w.exists_search h hne
  simp only [atCursor?_pressAll_iff w he hd h hne hi]
  exact w.turn_unique (pairwise_of_scan h) hl i

/-- **Going round the literals** of a document, if all of them can be read.  On the literal with
    the number `i` the cursor finds it, the next one is `i + 1` and the previous one `i - 1`, round the
    cycle.  So each of the two keys undoes the other, and either of them, pressed as many times as there
    are literals and from wherever the cursor was, brings it to each of them once.  From any other offset
    the next literal is the one that starts least far behind it, or else the first; and the previous one
    is the one that ends least far in front of it, or else the last. -/
theorem numbers_go_round {e : Editor} {d : Document} {ls : List Literal}
    (he : e.isConverting = false) (hd : e.document? = some d) (h : scan d.text = .ok ls) :
    (∀ (i : Nat) (l : Literal), ls[i]? = some l →
      atCursor? (goTo d l) = .ok (some l) ∧
      afterCursor? (goTo d l) = .ok (counted? ls (i + 1)) ∧
      beforeCursor? (goTo d l) = .ok (counted? ls (i - 1))) ∧
    (∀ l ∈ ls, ∀ a b : Int,
      (e.setDocument (goTo d l)).pressAll [(Command.control 'n', a), (Command.control 'p', b)] =
        e.setDocument (goTo d l) ∧
      (e.setDocument (goTo d l)).pressAll [(Command.control 'p', a), (Command.control 'n', b)] =
        e.setDocument (goTo d l)) ∧
    (∀ k another : Int, k = Command.control 'n' ∨ k = Command.control 'p' → ∀ l ∈ ls,
      ∃! n : Nat, n < ls.length ∧
        (e.pressAll (List.replicate (n + 1) (k, another))).document?.map atCursor? =
          some (.ok (some l))) ∧
    (∀ (o : Int) (l : Literal),
      (next? ls o = some l ↔
        (l ∈ ls ∧ o < l.start ∧ ∀ x ∈ ls, o < x.start → l.start ≤ x.start) ∨
          (∀ x ∈ ls, x.start ≤ o) ∧ ls.head? = some l) ∧
      (previous? ls o = some l ↔
        (l ∈ ls ∧ l.stop < o ∧ ∀ x ∈ ls, x.stop < o → x.stop ≤ l.stop) ∨
          (∀ x ∈ ls, o ≤ x.stop) ∧ ls.getLast? = some l)) ∧
    afterCursor? d = .ok (next? ls d.cursor) ∧ beforeCursor? d = .ok (previous? ls d.cursor) := by
  have hls := pairwise_of_scan h
  refine ⟨fun i l hi => ?_, fun l hl a b => ?_, fun k another hk l hl => ?_, fun o l => ?_,
    afterCursor?_eq h, beforeCursor?_eq h⟩
  · have hnumber := counted?_of_getElem? hi
    exact ⟨atCursor?_goTo h (List.mem_of_getElem? hi), afterCursor?_goTo h hnumber,
      beforeCursor?_goTo h hnumber⟩
  · obtain ⟨n, hn⟩ := List.mem_iff_getElem?.1 hl
    have hnumber := counted?_of_getElem? hn
    exact ⟨pressAll_opposite (w := .onward) (v := .backward) rfl he hd h hnumber a b,
      pressAll_opposite (w := .backward) (v := .onward) rfl he hd h hnumber a b⟩
  · rcases hk with rfl | rfl
    · exact visit_unique .onward he hd h hl another
    · exact visit_unique .backward he hd h hl another
  · exact ⟨next?_eq_some_iff hls, previous?_eq_some_iff hls⟩

/-- Three literals on two lines: the last one is in front of the first, and has its turn. -/
theorem numbers_go_round_three_literals :
    let d := Document.ofText "x = 0x1F + 2\ny = 7".toList
    let e := onDocument d
    let ls : List Literal := [⟨"0x1F".toList, 4, 31⟩, ⟨"2".toList, 11, 2⟩, ⟨"7".toList, 17, 7⟩]
    e.isConverting = false ∧ e.document? = some d ∧ scan d.text = .ok ls ∧
      beforeCursor? (goTo d ⟨"0x1F".toList, 4, 31⟩) = .ok (some ⟨"7".toList, 17, 7⟩) ∧
      (e.setDocument (goTo d ⟨"7".toList, 17, 7⟩)).pressAll [(14, 0), (16, 0)] =
        e.setDocument (goTo d ⟨"7".toList, 17, 7⟩) ∧
      (∃! n : Nat, n < 3 ∧
        (e.pressAll (List.replicate (n + 1) (14, 0))).document?.map atCursor? =
          some (.ok (some ⟨"7".toList, 17, 7⟩))) ∧
      next? ls 5 = some ⟨"2".toList, 11, 2⟩ := by
  intro d e ls
  have hscan : scan d.text = .ok ls := by decide +kernel
  obtain ⟨hon, hopposite, hvisit, hfrom, -⟩ := numbers_go_round (e := e) rfl rfl hscan
  refine ⟨rfl, rfl, hscan, (hon 0 _ rfl).2.2, (hopposite _ (by decide) 0 0).1,
    hvisit 14 0 (.inl rfl) _ (by decide), (hfrom 5 _).1.2 (.inl ?_)⟩
  decide

end Editor

end Respell
