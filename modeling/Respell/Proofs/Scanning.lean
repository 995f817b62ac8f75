/-
  Where the scan of a text can be cut.

  1. **No look past a word.**  Markers and digits are word characters, so whether a literal stands
     at a place, and how long it is, does not depend on what comes after the word it stands in
     (`lengthAt_append`).

  2. **Seams.**  If no word goes on across a place, the scan of the text is the scan of what stands
     in front and then that of what stands behind: because nothing of a word follows
     (`spellingsFrom_append`), or because nothing of a word is left open (`spellingsFrom_append'`).

  3. **What is found.**  Every spelling is a part of the text and a numeral, and the scan goes on
     right behind it (`exists_of_spellingsFrom`).  The other way round, a numeral that stands alone
     is found whole (`spellingsFrom_alone`).

  4. **What is read.**  Each spelling has a worth or a reason why it has none, so the literals of a
     text are its spellings with their worths (`readAll_eq`).
-/
import Respell.Literal
import Respell.Proofs.Numerals
import Mathlib.Data.List.TakeWhile

namespace Respell.Literal

open Numeral (IsNumeral isRun markedBase? worth)

variable {w : Bool} {pos : Nat} {u x t : Text}

/-! ## Word characters -/

theorem isWordChar_of_hasDigit {b : Base} {c : Char} (h : b.hasDigit c = true) :
    isWordChar c = true := by
  have hrange : ('0' ≤ c ∧ c ≤ '9') ∨ ('a' ≤ c ∧ c ≤ 'f') ∨ ('A' ≤ c ∧ c ≤ 'F') := by
    by_contra hnone
    simp only [not_or] at hnone
    rw [Base.hasDigit, digitValue?, if_neg hnone.1, if_neg hnone.2.1, if_neg hnone.2.2] at h
    exact Bool.noConfusion h
  show (((decide (c.val ≥ 'A'.val ∧ c.val ≤ 'Z'.val) || (c.val ≥ 'a'.val && c.val ≤ 'z'.val)) ||
    (c.val ≥ '0'.val && c.val ≤ '9'.val)) || decide (c = '_')) = true
  simp only [Bool.or_eq_true, Bool.and_eq_true, decide_eq_true_eq]
  rcases hrange with hd | hl | hu
  · exact .inl (.inr hd)
  · exact .inl (.inl (.inr ⟨hl.1, UInt32.le_trans hl.2 (by decide)⟩))
  · exact .inl (.inl (.inl ⟨hu.1, UInt32.le_trans hu.2 (by decide)⟩))

theorem hasDigit_eq_false (b : Base) {c : Char} (h : isWordChar c = false) :
    b.hasDigit c = false := by
  by_contra hd
  rw [isWordChar_of_hasDigit (Bool.not_eq_false _ ▸ hd)] at h
  exact Bool.noConfusion h

theorem isWordChar_of_markedBase? {c : Char} {b : Base} (h : markedBase? c = some b) :
    isWordChar c = true := by
  unfold markedBase? at h
  split at h
  · rename_i hc
    rcases hc with rfl | rfl <;> decide
  · split at h
    · rename_i hc
      rcases hc with rfl | rfl <;> decide
    · split at h
      · rename_i hc
        rcases hc with rfl | rfl <;> decide
      · simp at h

/-- Whether a text ends in a word; an empty one does if a word character stands in front. -/
def endsWord (inWord : Bool) : Text → Bool
  | [] => inWord
  | c :: t => endsWord (isWordChar c) t

theorem endsWord_append : ∀ (w : Bool) (u x : Text),
    endsWord w (u ++ x) = endsWord (endsWord w u) x
  | _, [], _ => rfl
  | _, c :: u, x => endsWord_append (isWordChar c) u x

theorem markedBase?_eq_none {c : Char} (h : isWordChar c = false) : markedBase? c = none := by
  by_contra hb
  obtain ⟨b, hb⟩ := Option.ne_none_iff_exists'.1 hb
  rw [isWordChar_of_markedBase? hb] at h
  exact Bool.noConfusion h

/-- What stands in front of a text does not matter to its last character. -/
theorem endsWord_of_ne_nil (w w' : Bool) (hu : u ≠ []) : endsWord w u = endsWord w' u := by
  obtain ⟨c, u, rfl⟩ := List.exists_cons_of_ne_nil hu
  rfl

/-- A numeral begins with a word character. -/
theorem beginsWord_numeral {s : Text} (h : IsNumeral s) (t : Text) : beginsWord (s ++ t) = true := by
  rcases Numeral.isNumeral_iff.1 h with ⟨c, b, ds, rfl, -, -⟩ | h
  · rfl
  · obtain ⟨hne, hds⟩ := Numeral.isRun_iff.1 h
    obtain ⟨c, s, rfl⟩ := List.exists_cons_of_ne_nil hne
    exact isWordChar_of_hasDigit (hds c (by simp))

/-! ## The literal at one place -/

/-- A run of digits does not go past the end of a word. -/
theorem takeWhile_hasDigit_append (b : Base) (hx : beginsWord x = false) :
    ∀ u : Text, (u ++ x).takeWhile b.hasDigit = u.takeWhile b.hasDigit
  | [] => by
    cases x with
    | nil => rfl
    | cons c x =>
      have hc : b.hasDigit c = false := hasDigit_eq_false b hx
      simp [hc]
  | c :: u => by
    rw [List.cons_append, List.takeWhile_cons, List.takeWhile_cons,
      takeWhile_hasDigit_append b hx u]

/-- Whether a word goes on behind a run of digits does not depend on what follows the word. -/
theorem beginsWord_dropWhile_append (b : Base) (hx : beginsWord x = false) :
    ∀ u : Text, beginsWord ((u ++ x).dropWhile b.hasDigit) = beginsWord (u.dropWhile b.hasDigit)
  | [] => by
    cases x with
    | nil => rfl
    | cons c x =>
      have hc : b.hasDigit c = false := hasDigit_eq_false b hx
      simpa [hc, beginsWord] using hx
  | c :: u => by
    rw [List.cons_append, List.dropWhile_cons, List.dropWhile_cons]
    split
    · exact beginsWord_dropWhile_append b hx u
    · rfl

theorem markedLength_append (hx : beginsWord x = false) :
    markedLength (u ++ x) = markedLength u := by
  -- the marker takes two characters, and `u` may have fewer
  match u with
  | [] =>
    match x, hx with
    | [], _ => rfl
    | c :: x, hx =>
      have hc : c ≠ '0' := fun h => Bool.noConfusion (h ▸ hx : isWordChar '0' = false)
      simp [markedLength, hc]
  | [d] =>
    match x, hx with
    | [], _ => rfl
    | c :: x, hx =>
      have hc : markedBase? c = none := markedBase?_eq_none hx
      by_cases hd : d = '0' <;> simp [markedLength, hd, hc]
  | d :: c :: ds =>
    by_cases hd : d = '0'
    · subst hd
      simp only [markedLength, List.cons_append]
      cases markedBase? c with
      | none => rfl
      | some b => simp only [takeWhile_hasDigit_append b hx]
    · simp [markedLength, hd]

/-- **No look past a word.**  What follows a word does not matter to the literals in it. -/
theorem lengthAt_append (hx : beginsWord x = false) : lengthAt w (u ++ x) = lengthAt w u := by
  simp only [lengthAt, decimalLength, markedLength_append hx,
    takeWhile_hasDigit_append .decimal hx, beginsWord_dropWhile_append .decimal hx]

theorem lengthAt_nil : lengthAt w [] = 0 := by cases w <;> rfl

/-- No literal begins with a character that belongs to no word. -/
theorem lengthAt_of_beginsWord (h : beginsWord t = false) : lengthAt w t = 0 :=
  (lengthAt_append (u := []) h).trans lengthAt_nil

theorem isNumeral_of_markedLength {n : Nat} (h : markedLength t = n + 1) :
    n + 1 ≤ t.length ∧ IsNumeral (t.take (n + 1)) := by
  unfold markedLength at h
  split at h
  · rename_i c ds
    cases hb : markedBase? c with
    | none => simp [hb] at h
    | some b =>
      simp only [hb] at h
      have hpre := List.takeWhile_prefix (l := ds) b.hasDigit
      split at h
      · simp at h
      · rename_i hne
        rw [← h]
        refine ⟨by simpa using hpre.length_le, Numeral.isNumeral_iff.2 (.inl ?_)⟩
        refine ⟨c, b, ds.takeWhile b.hasDigit, ?_, hb, Numeral.isRun_iff.2 ⟨by simpa using hne, ?_⟩⟩
        · rw [List.take_succ_cons, List.take_succ_cons, ← List.prefix_iff_eq_take.1 hpre]
        · exact fun c hc => List.mem_takeWhile_imp hc
  · simp at h

theorem isNumeral_of_decimalLength {n : Nat} (h : decimalLength w t = n + 1) :
    n + 1 ≤ t.length ∧ IsNumeral (t.take (n + 1)) := by
  unfold decimalLength at h
  split at h
  · simp at h
  · have hpre := List.takeWhile_prefix (l := t) Base.decimal.hasDigit
    have htake := List.prefix_iff_eq_take.1 hpre
    rw [h] at htake
    refine ⟨h ▸ hpre.length_le, Numeral.isNumeral_iff.2 (.inr (Numeral.isRun_iff.2 ⟨?_, ?_⟩))⟩
    · rw [← htake]
      intro h0
      simp [h0] at h
    · rw [← htake]
      exact fun c hc => List.mem_takeWhile_imp hc

/-- What is found at a place is a numeral. -/
theorem isNumeral_of_lengthAt {n : Nat} (h : lengthAt w t = n + 1) :
    n + 1 ≤ t.length ∧ IsNumeral (t.take (n + 1)) := by
  unfold lengthAt at h
  split at h
  · exact isNumeral_of_decimalLength h
  · rename_i m hm
    rw [← h]
    exact isNumeral_of_markedLength hm

/-- A numeral that stands alone is found whole. -/
theorem lengthAt_numeral {s : Text} (h : IsNumeral s) : lengthAt false s = s.length := by
  have htake : ∀ {b : Base} {ds : Text}, isRun b ds = true → ds.takeWhile b.hasDigit = ds :=
    fun hds => List.takeWhile_eq_self_iff.2 (Numeral.isRun_iff.1 hds).2
  rcases Numeral.isNumeral_iff.1 h with ⟨c, b, ds, rfl, hb, hds⟩ | hds
  · have hne : ds ≠ [] := (Numeral.isRun_iff.1 hds).1
    simp [lengthAt, markedLength, hb, htake hds, hne]
  · have hmark : markedLength s = 0 := by
      unfold markedLength
      split
      · rename_i c ds
        rw [Numeral.markedBase?_of_hasDigit ((Numeral.isRun_iff.1 hds).2 c (by simp))]
      · rfl
    have hdrop : s.dropWhile Base.decimal.hasDigit = [] :=
      List.dropWhile_eq_nil_iff.2 (Numeral.isRun_iff.1 hds).2
    simp [lengthAt, hmark, decimalLength, hdrop, htake hds, beginsWord]

/-! ## The scan, step by step -/

/-- Where no literal stands, the scan goes on with the next character. -/
theorem spellingsFrom_skip {c : Char} (h : lengthAt w (c :: t) = 0) :
    spellingsFrom w pos (c :: t) = spellingsFrom (isWordChar c) (pos + 1) t := by
  rw [spellingsFrom]
  simp only [h]

/-- Where a literal stands, the scan goes on behind it. -/
theorem spellingsFrom_found {c : Char} {n : Nat} (h : lengthAt w (c :: t) = n + 1) :
    spellingsFrom w pos (c :: t) =
      ⟨pos, c :: t.take n⟩ :: spellingsFrom true (pos + (n + 1)) (t.drop n) := by
  rw [spellingsFrom]
  simp only [h]

theorem spellingsFrom_nil : spellingsFrom w pos [] = [] := by rw [spellingsFrom]

/-- What stands in front of a text matters only to the word that it begins with. -/
theorem spellingsFrom_of_beginsWord (w w' : Bool) (pos : Nat) (h : beginsWord t = false) :
    spellingsFrom w pos t = spellingsFrom w' pos t := by
  cases t with
  | nil => rw [spellingsFrom_nil, spellingsFrom_nil]
  | cons c t =>
    rw [spellingsFrom_skip (lengthAt_of_beginsWord h), spellingsFrom_skip (lengthAt_of_beginsWord h)]

/-! ## Seams -/

/-- **A seam in front of a word's end.**  If no word character follows, the scan falls apart. -/
theorem spellingsFrom_append (w : Bool) (pos : Nat) (u : Text) (hx : beginsWord x = false) :
    spellingsFrom w pos (u ++ x) =
      spellingsFrom w pos u ++ spellingsFrom false (pos + u.length) x := by
  -- by the steps of the scan of `u`, which finds the same with and without `x` at each place
  fun_induction spellingsFrom w pos u with
  | case1 w pos => exact spellingsFrom_of_beginsWord w false pos hx
  | case2 w pos c u h ih =>
    have happ : lengthAt w (c :: (u ++ x)) = 0 := (lengthAt_append (u := c :: u) hx).trans h
    rw [List.cons_append, spellingsFrom_skip happ, ih, List.length_cons]
    congr 2
    omega
  | case3 w pos c u n h ih =>
    have happ : lengthAt w (c :: (u ++ x)) = n + 1 := (lengthAt_append (u := c :: u) hx).trans h
    have hn : n ≤ u.length := by simpa using (isNumeral_of_lengthAt h).1
    -- the literal ends inside `u`
    rw [List.cons_append, spellingsFrom_found happ, List.take_append_of_le_length hn,
      List.drop_append_of_le_length hn, ih, List.cons_append, List.length_cons, List.length_drop]
    congr 3
    omega

/-- **A seam behind a word's end.**  If no word is left open, the scan falls apart. -/
theorem spellingsFrom_append' (w : Bool) (pos : Nat) (x : Text) (hu : endsWord w u = false) :
    spellingsFrom w pos (u ++ x) =
      spellingsFrom w pos u ++ spellingsFrom false (pos + u.length) x := by
  rcases List.eq_nil_or_concat u with rfl | ⟨v, c, rfl⟩
  · have hw : w = false := hu
    rw [hw, spellingsFrom_nil]
    rfl
  · -- the last character of `u` is the first of a text that begins no word
    have hc : isWordChar c = false := by simpa [endsWord_append, endsWord] using hu
    have hword : ∀ t : Text, beginsWord (c :: t) = false := fun _ => hc
    have hskip : ∀ (pos : Nat) (t : Text),
        spellingsFrom false pos (c :: t) = spellingsFrom false (pos + 1) t := fun pos t => by
      rw [spellingsFrom_skip (lengthAt_of_beginsWord (hword t)), hc]
    rw [List.concat_eq_append, List.append_assoc, List.singleton_append,
      spellingsFrom_append w pos v (hword x), spellingsFrom_append w pos v (hword []), hskip, hskip,
      spellingsFrom_nil, List.append_nil, List.length_append, List.length_singleton, Nat.add_assoc]

/-! ## What is found -/

/-- A numeral that stands alone is the one spelling found. -/
theorem spellingsFrom_numeral (pos : Nat) {s : Text} (h : IsNumeral s) :
    spellingsFrom false pos s = [⟨pos, s⟩] := by
  obtain ⟨c, t, rfl⟩ := List.exists_cons_of_ne_nil h.ne_nil
  have hlen : lengthAt false (c :: t) = t.length + 1 := lengthAt_numeral h
  rw [spellingsFrom_found hlen, List.take_length, List.drop_length, spellingsFrom_nil]

/-- **The first spelling.**  It is a numeral in the text, and the scan goes on right behind it. -/
theorem exists_of_spellingsFrom {s : Spelling} {ss : List Spelling}
    (h : spellingsFrom w pos t = s :: ss) :
    ∃ u x, t = u ++ (s.text ++ x) ∧ s.start = pos + u.length ∧ IsNumeral s.text ∧
      ss = spellingsFrom true (s.start + s.text.length) x := by
  fun_induction spellingsFrom w pos t with
  | case1 w pos => simp at h
  | case2 w pos c t hlen ih =>
    obtain ⟨u, x, rfl, hstart, hnum, hss⟩ := ih h
    exact ⟨c :: u, x, rfl, by rw [hstart, List.length_cons]; omega, hnum, hss⟩
  | case3 w pos c t n hlen _ =>
    obtain ⟨hn, hnum⟩ := isNumeral_of_lengthAt hlen
    obtain ⟨rfl, rfl⟩ := List.cons.inj h
    have hlen' : (c :: t.take n).length = n + 1 := List.length_take_of_le hn
    refine ⟨[], t.drop n, ?_, rfl, hnum, by simp only [hlen']⟩
    rw [List.nil_append, List.cons_append, List.take_append_drop]

theorem isNumeral_of_mem_spellingsFrom {s : Spelling} (hs : s ∈ spellingsFrom w pos t) :
    IsNumeral s.text := by
  generalize hss : spellingsFrom w pos t = ss at hs
  induction ss generalizing w pos t with
  | nil => simp at hs
  | cons s' ss ih =>
    obtain ⟨u, x, -, -, hnum, rfl⟩ := exists_of_spellingsFrom hss
    rcases List.mem_cons.1 hs with rfl | hs
    · exact hnum
    · exact ih rfl hs

/-- The spellings of a text are the same wherever it stands, counted from its start. -/
theorem spellingsFrom_add (w : Bool) (pos k : Nat) (t : Text) :
    spellingsFrom w (pos + k) t =
      (spellingsFrom w pos t).map fun s => { s with start := s.start + k } := by
  fun_induction spellingsFrom w pos t with
  | case1 w pos => rw [spellingsFrom_nil, List.map_nil]
  | case2 w pos c t h ih => rw [spellingsFrom_skip h, ← ih, Nat.add_right_comm]
  | case3 w pos c t n h ih =>
    rw [spellingsFrom_found h, List.map_cons, ← ih, Nat.add_right_comm]

theorem spellingsFrom_eq_nil_iff (pos : Nat) : spellingsFrom false pos t = [] ↔ spellings t = [] := by
  have hadd := spellingsFrom_add false 0 pos t
  rw [Nat.zero_add] at hadd
  rw [hadd, List.map_eq_nil_iff]
  rfl

/-- **A numeral that stands alone** is found, between what is found in front and behind. -/
theorem spellingsFrom_alone {s : Text} (pos : Nat) (hu : endsWord false u = false)
    (hs : IsNumeral s) (hx : beginsWord x = false) :
    spellingsFrom false pos (u ++ (s ++ x)) =
      spellingsFrom false pos u ++
        ⟨pos + u.length, s⟩ :: spellingsFrom false (pos + u.length + s.length) x := by
  rw [spellingsFrom_append' false pos _ hu, spellingsFrom_append false _ s hx,
    spellingsFrom_numeral _ hs]
  rfl

/-! ## What is read -/

/-- Each spelling that is found gives one result. -/
theorem readAll_eq (t : Text) :
    readAll t = (spellings t).map fun s =>
      (worth s.text).map fun n => ⟨s.text, s.start, n⟩ := by
  unfold readAll
  rw [← List.filterMap_eq_map]
  refine List.filterMap_congr fun s hs => ?_
  have hnum : IsNumeral s.text := isNumeral_of_mem_spellingsFrom hs
  rw [ofSpelling?, Numeral.read_eq_worth hnum, Function.comp_apply]
  cases worth s.text <;> rfl

/-- What can be said of the literals of a text, if all of them can be read. -/
theorem scan_map {α : Type} (f : Literal → α) (t : Text) :
    (scan t).map (List.map f) =
      allOf ((spellings t).map fun s => (worth s.text).map fun n => f ⟨s.text, s.start, n⟩) := by
  rw [scan, ← allOf_map, readAll_eq, List.map_map]
  congr 2
  funext s
  simp only [Function.comp_apply]
  cases worth s.text <;> rfl

/-- The values of a text are what its spellings are worth. -/
theorem scan_map_value (t : Text) :
    (scan t).map (List.map value) = allOf (((spellings t).map Spelling.text).map worth) := by
  rw [scan_map, List.map_map]
  congr 2
  funext s
  show (worth s.text).map (fun n => n) = worth s.text
  cases worth s.text <;> rfl

/-- The literals of a text stand where its spellings do, each with its worth. -/
theorem mem_of_scan {t : Text} {ls : List Literal} (h : scan t = .ok ls) {l : Literal}
    (hl : l ∈ ls) : ⟨l.start, l.spelling⟩ ∈ spellings t ∧ worth l.spelling = .ok l.value := by
  have hread : Except.ok l ∈ readAll t := by
    rw [eq_map_ok_of_allOf h]
    exact List.mem_map_of_mem hl
  rw [readAll_eq] at hread
  obtain ⟨s, hs, hsl⟩ := List.mem_map.1 hread
  cases hw : worth s.text with
  | error e => rw [hw] at hsl; cases hsl
  | ok n =>
    rw [hw] at hsl
    obtain rfl : (⟨s.text, s.start, n⟩ : Literal) = l := Except.ok.inj hsl
    exact ⟨hs, hw⟩

/-- A scan succeeds, with the worths of the spellings as values, if each of them can be read. -/
theorem exists_scan {t : Text} {ns : List Nat}
    (h : ((spellings t).map Spelling.text).map worth = ns.map .ok) :
    ∃ ls, scan t = .ok ls ∧ ls.map value = ns := by
  have hvalues : (scan t).map (List.map value) = .ok ns := by
    rw [scan_map_value, h, allOf_map_ok]
  cases hscan : scan t with
  | error e => rw [hscan] at hvalues; cases hvalues
  | ok ls =>
    rw [hscan] at hvalues
    exact ⟨ls, rfl, Except.ok.inj hvalues⟩

end Respell.Literal
