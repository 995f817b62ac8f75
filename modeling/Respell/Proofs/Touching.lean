/-
  No two literals touch.

  The literal at an offset is looked for from the left, and both ends of a literal count as parts of it.
  If the end of one literal could be the start of the next, the offset between them would belong to both,
  and the search would have to choose.  This file proves that it never has to.

  1. **Behind a literal** (`lengthAt_behind`) no other one begins.  A marked literal takes all digits of
     its base that follow, and `0`, the first character of every marker, is a digit of every base; behind
     a decimal one the word has ended; and a decimal one does not begin inside a word.

  2. **The scan** goes on right behind what it has found, so there is a character between any two
     spellings (`spellings_apart`), even in one word.

  3. **The search** leaves off at the first literal that starts behind the offset.  Those after it start
     behind it too, so it finds what a search through all of them would find (`firstTouching_eq_find?`).
-/
import Respell.Proofs.Grammar

namespace Respell.Literal

variable {w : Bool} {pos : Nat} {s t y : Text} {l m : Literal} {ls : List Literal} {offset : Int}

/-! ## Behind a literal -/

/-- **No literal begins right behind another.** -/
theorem lengthAt_behind (hs : s ≠ []) (h : lengthAt w (s ++ y) = s.length) : lengthAt true y = 0 := by
  rcases shape_of_lengthAt hs h with ⟨c, b, ds, -, -, -, hrun⟩ | ⟨-, -, hword⟩
  · refine lengthAt_eq_zero_iff.2 ⟨?_, rfl⟩
    cases hmarked : markedLength y with
    | zero => rfl
    | succ n =>
      -- the zero of the marker would be one more digit of the literal in front
      obtain ⟨c, b', x, rfl, -, -⟩ := marked_of_markedLength hmarked
      rw [beginsRun, List.head?_cons, Option.any_some, hasDigit_zero] at hrun
      cases hrun
  · exact lengthAt_of_beginsWord hword

/-- Where no literal begins, the first one that is found starts later. -/
theorem lt_start_of_lengthAt (h : lengthAt w t = 0) {x : Spelling} (hx : x ∈ spellingsFrom w pos t) :
    pos < x.start := by
  cases t with
  | nil =>
    rw [spellingsFrom_nil] at hx
    cases hx
  | cons c t =>
    rw [spellingsFrom_skip h] at hx
    obtain ⟨u, y, -, hstart, -, -⟩ := exists_around_of_mem hx
    omega

/-- **There is a character between any two spellings** of a text. -/
theorem spellings_apart (t : Text) :
    (spellings t).Pairwise fun x y => x.start + x.text.length < y.start := by
  suffices hfrom : ∀ w pos t, (spellingsFrom w pos t).Pairwise fun x y =>
      x.start + x.text.length < y.start from hfrom false 0 t
  -- by the steps of the scan, each of which goes on behind what it has found
  intro w pos t
  fun_induction spellingsFrom w pos t with
  | case1 w pos => exact .nil
  | case2 w pos c t h ih => exact ih
  | case3 w pos c t n h ih =>
    have hfirst : (c :: t.take n).length = n + 1 :=
      List.length_take_of_le (isNumeral_of_lengthAt h).1
    have hbehind : lengthAt true (t.drop n) = 0 := by
      refine lengthAt_behind (w := w) (List.cons_ne_nil c (t.take n)) ?_
      rw [List.cons_append, List.take_append_drop, h, hfirst]
    refine List.pairwise_cons.2 ⟨fun x hx => ?_, ih⟩
    have hlt := lt_start_of_lengthAt hbehind hx
    show pos + (c :: t.take n).length < x.start
    omega

/-- **There is a character between any two literals** of a text. -/
theorem pairwise_of_scan (h : scan t = .ok ls) : ls.Pairwise fun l m => l.stop < m.start := by
  have hpair := spellings_apart t
  rw [spellings_of_scan h, List.pairwise_map] at hpair
  exact hpair

/-! ## The literal at an offset -/

theorem touches_iff : l.touches offset = true ↔ l.start ≤ offset ∧ offset ≤ l.stop := by
  simp [touches]

/-- A literal does not end before it starts. -/
theorem start_le_stop (l : Literal) : l.start ≤ l.stop := Nat.le_add_right _ _

/-- **At most one literal touches an offset.** -/
theorem index_unique (hls : ls.Pairwise fun l m => l.stop < m.start) {i j : Nat}
    (hi : ls[i]? = some l) (hj : ls[j]? = some m) (hl : l.start ≤ offset ∧ offset ≤ l.stop)
    (hm : m.start ≤ offset ∧ offset ≤ m.stop) : i = j := by
  obtain ⟨hilt, rfl⟩ := List.getElem?_eq_some_iff.1 hi
  obtain ⟨hjlt, rfl⟩ := List.getElem?_eq_some_iff.1 hj
  rw [List.pairwise_iff_getElem] at hls
  rcases Nat.lt_trichotomy i j with hlt | heq | hlt
  · have hapart := hls i j hilt hjlt hlt
    omega
  · exact heq
  · have hapart := hls j i hjlt hilt hlt
    omega

theorem eq_of_touches (hls : ls.Pairwise fun l m => l.stop < m.start) (hl : l ∈ ls) (hm : m ∈ ls)
    (hlo : l.touches offset = true) (hmo : m.touches offset = true) : l = m := by
  obtain ⟨i, hi⟩ := List.mem_iff_getElem?.1 hl
  obtain ⟨j, hj⟩ := List.mem_iff_getElem?.1 hm
  obtain rfl := index_unique hls hi hj (touches_iff.1 hlo) (touches_iff.1 hmo)
  exact Option.some.inj (hi.symm.trans hj)

/-- **The search leaves off in time**: it finds what a search through all literals would find. -/
theorem firstTouching_eq_find? (hls : ls.Pairwise fun l m => l.stop < m.start) (offset : Int) :
    firstTouching offset (ls.map .ok) = .ok (ls.find? (·.touches offset)) := by
  induction ls with
  | nil => rfl
  | cons l ls ih =>
    obtain ⟨hbehind, hls⟩ := List.pairwise_cons.1 hls
    rw [List.map_cons, firstTouching]
    by_cases hlt : offset < l.start
    · -- all that is left starts behind the offset
      have hnone : (l :: ls).find? (·.touches offset) = none := by
        refine List.find?_eq_none.2 fun m hm => ?_
        rw [touches_iff]
        have hstart := l.start_le_stop
        rcases List.mem_cons.1 hm with rfl | hm
        · omega
        · have hlt' := hbehind m hm
          omega
      rw [if_pos hlt, hnone]
    · rw [if_neg hlt]
      rw [List.find?_cons, ih hls]
      cases l.touches offset <;> rfl

theorem at?_eq_find? (h : scan t = .ok ls) (offset : Int) :
    at? t offset = .ok (ls.find? (·.touches offset)) := by
  rw [at?, eq_map_ok_of_allOf h, firstTouching_eq_find? (pairwise_of_scan h)]

/-- The search finds a literal just if it touches the offset. -/
theorem at?_eq_some_iff (h : scan t = .ok ls) :
    at? t offset = .ok (some l) ↔ l ∈ ls ∧ l.touches offset = true := by
  rw [at?_eq_find? h, Except.ok.injEq]
  have hfound : ∀ m, ls.find? (·.touches offset) = some m → m.touches offset = true :=
    fun m hm => List.find?_some (p := fun x : Literal => x.touches offset) hm
  constructor
  · intro hfind
    exact ⟨List.mem_of_find?_eq_some hfind, hfound l hfind⟩
  · rintro ⟨hl, htouches⟩
    obtain ⟨m, hm⟩ := Option.isSome_iff_exists.1
      (List.find?_isSome (p := fun x : Literal => x.touches offset).2 ⟨l, hl, htouches⟩)
    rw [hm, eq_of_touches (pairwise_of_scan h) hl (List.mem_of_find?_eq_some hm) htouches (hfound m hm)]

/-- **The literal at an offset is unique.**  Of any two literals of a text whose literals can be read,
    the first ends in front of the character before the second.  So no offset has two literals of which
    it is a part or an end, and the search finds the one that it has, and none if it has none. -/
theorem literal_at_unique {t : Text} {ls : List Literal} (h : scan t = .ok ls) :
    ls.Pairwise (fun l m => l.stop < m.start) ∧
    ∀ offset : Int,
      (∀ (i j : Nat) (l m : Literal), ls[i]? = some l → ls[j]? = some m →
        l.start ≤ offset ∧ offset ≤ l.stop → m.start ≤ offset ∧ offset ≤ m.stop → i = j) ∧
      (∀ l, at? t offset = .ok (some l) ↔ l ∈ ls ∧ l.start ≤ offset ∧ offset ≤ l.stop) ∧
      (at? t offset = .ok none ↔ ∀ l ∈ ls, ¬ (l.start ≤ offset ∧ offset ≤ l.stop)) := by
  have hpair := pairwise_of_scan h
  refine ⟨hpair, fun offset => ⟨fun i j l m => index_unique hpair, fun l => ?_, ?_⟩⟩
  · rw [at?_eq_some_iff h, touches_iff]
  · rw [at?_eq_find? h, Except.ok.injEq, List.find?_eq_none]
    simp only [touches_iff]

/-- Two marked literals in one word, with one character between them that belongs to neither. -/
theorem literal_at_unique_one_word :
    let t := "0b120x3".toList
    let ls : List Literal := [⟨"0b1".toList, 0, 1⟩, ⟨"0x3".toList, 4, 3⟩]
    scan t = .ok ls ∧ ls.Pairwise (fun l m => l.stop < m.start) ∧
      at? t 3 = .ok (some ⟨"0b1".toList, 0, 1⟩) ∧ at? t 4 = .ok (some ⟨"0x3".toList, 4, 3⟩) ∧
      at? t 8 = .ok none := by
  intro t ls
  have hscan : scan t = .ok ls := by decide +kernel
  obtain ⟨hpair, hat⟩ := literal_at_unique hscan
  refine ⟨hscan, hpair, ((hat 3).2.1 _).2 (by decide), ((hat 4).2.1 _).2 (by decide), ?_⟩
  exact (hat 8).2.2.2 (by decide)

end Respell.Literal
