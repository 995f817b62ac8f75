/-
  Offsets and places.

  The cursor is kept as a line and a column, and searches and edits speak of offsets of the text.  Walking
  along the lines turns an offset into a place, and adding up their lengths turns a place into an offset.
  This file proves that the two undo each other, and that both of them keep the order.

  1. **Every offset has a place** (`exists_place`): the text up to it is some whole lines, each with its
     newline, and the start of one more line.

  2. **The cursor goes where it is sent** (`cursor_moveTo`), to any offset of the text.

  3. **A cursor that stands inside is where its offset says** (`moveTo_cursor`).

  4. **Newlines** (`count_newlines_around`, `lastPart_around`).  The lines in front of a place are as
     many as the newlines in front of it, and what is left behind the last of them is its column.

  5. **Order** (`offsetOf_lt_offsetOf`).  A place in front of another has the smaller offset: all of its
     line, newline included, stands in front of the other one's line.  Offsets that are in order have
     places in order then, because the way back would turn them round (`positionOf_lex`).

  Together offsets and places are one and the same order (`offsets_and_places`).
-/
import Respell.Proofs.LineByLine

namespace Respell

open Text (above unlines)

/-- A line in front adds its characters and its newline. -/
theorem Text.length_unlines_cons {l : Text} {ls : List Text} (hne : ls ≠ []) :
    (unlines (l :: ls)).length = l.length + 1 + (unlines ls).length := by
  rw [unlines, Text.join_cons _ _ hne, List.length_append, List.length_append]
  rfl

/-- **Every offset of a text has a place** in one of its lines, or at the end of it. -/
theorem Text.exists_place {ls : List Text} (hne : ls ≠ []) {o : Nat} (ho : o ≤ (unlines ls).length) :
    ∃ as l bs i, ls = as ++ l :: bs ∧ i ≤ l.length ∧ o = (above as).length + i := by
  induction ls generalizing o with
  | nil => exact absurd rfl hne
  | cons l ls ih =>
    by_cases hl : o ≤ l.length
    · exact ⟨[], l, ls, o, rfl, hl, (Nat.zero_add o).symm⟩
    · -- the offset lies behind the newline of this line
      have hls : ls ≠ [] := by
        rintro rfl
        exact hl ho
      have hlength := Text.length_unlines_cons (l := l) hls
      obtain ⟨as, m, bs, i, rfl, hi, hplace⟩ := ih hls (o := o - (l.length + 1)) (by omega)
      refine ⟨l :: as, m, bs, i, rfl, hi, ?_⟩
      simp only [above, List.flatMap_cons, List.length_append, List.length_singleton] at hplace ⊢
      omega

namespace Document

variable {d : Document} {o : Nat}

/-- A document that is sent to an offset of its text is taken apart there. -/
theorem focused_moveTo (hne : d.lines ≠ []) (ho : o ≤ d.text.length) :
    ∃ as left right bs, (d.moveTo o).Focused as left right bs ∧ (above as ++ left).length = o := by
  obtain ⟨as, l, bs, i, hls, hi, rfl⟩ := Text.exists_place hne ho
  have hplace : d.positionOf ((above as).length + i : Nat) = (as.length, i) := by
    rw [positionOf, Int.toNat_natCast, hls, positionIn_around as l bs hi]
  have hlength : (l.take i).length = i := List.length_take_of_le hi
  refine ⟨as, l.take i, l.drop i, bs, ⟨?_, ?_, ?_⟩, ?_⟩
  · rw [List.take_append_drop]
    exact hls
  · show ((d.positionOf _).1 : Int) = _
    rw [hplace]
  · show ((d.positionOf _).2 : Int) = _
    rw [hplace, hlength]
  · rw [List.length_append, hlength]

/-- **The cursor goes where it is sent.** -/
theorem cursor_moveTo (hne : d.lines ≠ []) (ho : o ≤ d.text.length) : (d.moveTo o).cursor = o := by
  obtain ⟨as, left, right, bs, hf, rfl⟩ := focused_moveTo hne ho
  exact hf.cursor

/-- **A cursor that stands inside is where its offset says.** -/
theorem moveTo_cursor (h : d.CursorInside) : d.moveTo d.cursor = d := by
  obtain ⟨as, left, right, bs, hf⟩ := h.focused
  have hplace : d.positionOf d.cursor = (as.length, left.length) := by
    rw [positionOf, hf.cursor, Int.toNat_natCast, hf.lines, List.length_append,
      positionIn_around as (left ++ right) bs (by rw [List.length_append]; omega)]
  have hline : ((d.positionOf d.cursor).1 : Int) = d.line := by rw [hplace, hf.line]
  have hcolumn : ((d.positionOf d.cursor).2 : Int) = d.column := by rw [hplace, hf.column]
  rw [moveTo, hline, hcolumn]

end Document

/-! ## What stands in front of a place -/

namespace Text

/-- There is one newline behind each line above. -/
theorem count_above {as : List Text} (has : ∀ l ∈ as, '\n' ∉ l) : (above as).count '\n' = as.length := by
  induction as with
  | nil => rfl
  | cons a as ih =>
    obtain ⟨ha, has⟩ := List.forall_mem_cons.1 has
    have hcons : above (a :: as) = a ++ '\n' :: above as := by
      simp only [above, List.flatMap_cons, List.append_assoc, List.singleton_append]
    rw [hcons, List.count_append, List.count_eq_zero.2 ha, List.count_cons_self, ih has,
      List.length_cons]
    omega

/-- The last part of a text is all of it, when it has no separator. -/
theorem lastPart_of_notMem {sep : Char} {v : Text} (hv : sep ∉ v) : lastPart sep v = v := by
  have hall : ∀ c ∈ v.reverse, decide (c ≠ sep) = true := by
    intro c hc
    refine decide_eq_true ?_
    rintro rfl
    exact hv (List.mem_reverse.1 hc)
  rw [lastPart, List.takeWhile_eq_self_iff.2 hall, List.reverse_reverse]

/-- What stands in front of a separator does not count. -/
theorem lastPart_append_sep {sep : Char} (u v : Text) :
    lastPart sep (u ++ sep :: v) = lastPart sep v := by
  have hreverse : (u ++ sep :: v).reverse = v.reverse ++ sep :: u.reverse := by simp
  rw [lastPart, lastPart, hreverse, List.takeWhile_append, List.takeWhile_cons_of_neg (by simp),
    List.append_nil]
  split
  · next hall => rw [(List.takeWhile_prefix _).eq_of_length hall]
  · rfl

variable {as : List Text} {l : Text} {bs : List Text} {i : Nat}

/-- **The lines in front of a place** are counted by the newlines in front of it. -/
theorem count_newlines_around (hlines : ∀ m ∈ as ++ l :: bs, '\n' ∉ m) (hi : i ≤ l.length) :
    ((unlines (as ++ l :: bs)).take ((above as).length + i)).count '\n' = as.length := by
  have has : ∀ m ∈ as, '\n' ∉ m := fun m hm => hlines m (List.mem_append_left _ hm)
  have hl : '\n' ∉ l.take i := fun h =>
    hlines l (List.mem_append_right _ List.mem_cons_self) (List.mem_of_mem_take h)
  rw [take_around as l bs hi, List.count_append, count_above has, List.count_eq_zero.2 hl,
    Nat.add_zero]

/-- **The column of a place** is what stands between it and the newline in front of it. -/
theorem lastPart_around (hlines : ∀ m ∈ as ++ l :: bs, '\n' ∉ m) (hi : i ≤ l.length) :
    (lastPart '\n' ((unlines (as ++ l :: bs)).take ((above as).length + i))).length = i := by
  have hl : '\n' ∉ l.take i := fun h =>
    hlines l (List.mem_append_right _ List.mem_cons_self) (List.mem_of_mem_take h)
  have hlength : (l.take i).length = i := List.length_take_of_le hi
  rw [take_around as l bs hi]
  rcases List.eq_nil_or_concat as with rfl | ⟨as, a, rfl⟩
  · show (lastPart '\n' (l.take i)).length = i
    rw [lastPart_of_notMem hl, hlength]
  · -- the newline of the last line above stands right in front
    have happ : above (as.concat a) ++ l.take i = (above as ++ a) ++ '\n' :: l.take i := by
      rw [List.concat_eq_append, above_append, above_singleton]
      simp
    rw [happ, lastPart_append_sep, lastPart_of_notMem hl, hlength]

end Text

/-! ## Order -/

namespace Document

variable {d : Document} {p q : Nat × Nat}

/-- Whether a line and a column are those of a character of a document or of the end of a line. -/
def HasPlace (d : Document) (p : Nat × Nat) : Prop :=
  p.1 < d.lines.length ∧ p.2 ≤ (d.lines.getD p.1 []).length

instance (d : Document) (p : Nat × Nat) : Decidable (d.HasPlace p) :=
  inferInstanceAs (Decidable (_ ∧ _))

/-- A document is taken apart at a place that it has. -/
theorem HasPlace.exists_around (h : d.HasPlace p) :
    ∃ as l bs, d.lines = as ++ l :: bs ∧ p.1 = as.length ∧ p.2 ≤ l.length := by
  obtain ⟨hline, hcolumn⟩ := h
  obtain ⟨as, l, bs, hls, hlength⟩ := Document.exists_around hline
  rw [hls, ← hlength, getD_around] at hcolumn
  exact ⟨as, l, bs, hls, hlength.symm, hcolumn⟩

/-- A place inside a line. -/
theorem hasPlace_around {as : List Text} {l : Text} {bs : List Text} {i : Nat}
    (hls : d.lines = as ++ l :: bs) (hi : i ≤ l.length) : d.HasPlace (as.length, i) := by
  constructor
  · show as.length < d.lines.length
    rw [hls, List.length_append, List.length_cons]
    omega
  · show i ≤ (d.lines.getD as.length []).length
    rwa [hls, getD_around]

/-- The offset of a place is what stands above its line, and its column. -/
theorem offsetOf_around {as : List Text} {l : Text} {bs : List Text} {i : Nat}
    (hls : d.lines = as ++ l :: bs) (hi : i ≤ l.length) :
    d.offsetOf as.length i = (above as).length + i := by
  have hlength : (l.take i).length = i := List.length_take_of_le hi
  -- it is the offset of a cursor that stands there
  have hf : Focused { d with line := as.length, column := i } as (l.take i) (l.drop i) bs :=
    ⟨by rw [List.take_append_drop]; exact hls, rfl, by rw [hlength]⟩
  have hcursor := hf.cursor
  rw [List.length_append, hlength] at hcursor
  exact hcursor

theorem positionOf_around {as : List Text} {l : Text} {bs : List Text} {i : Nat}
    (hls : d.lines = as ++ l :: bs) (hi : i ≤ l.length) :
    d.positionOf ((above as).length + i : Nat) = (as.length, i) := by
  rw [positionOf, Int.toNat_natCast, hls, positionIn_around as l bs hi]

/-- The offset of a place is an offset of the text, and leads back to the place. -/
theorem HasPlace.offsetOf (h : d.HasPlace p) :
    ∃ o : Nat, o ≤ d.text.length ∧ d.offsetOf p.1 p.2 = o ∧ d.positionOf o = p := by
  obtain ⟨as, l, bs, hls, hline, hcolumn⟩ := h.exists_around
  refine ⟨(above as).length + p.2, ?_, ?_, ?_⟩
  · rw [text, hls, Text.unlines_around, List.length_append, List.length_append]
    omega
  · rw [hline, offsetOf_around hls hcolumn]
    rfl
  · rw [positionOf_around hls hcolumn, ← hline]

/-- **Places in order have offsets in order.** -/
theorem offsetOf_lt_offsetOf (hp : d.HasPlace p) (hq : d.HasPlace q)
    (h : Prod.Lex (· < ·) (· < ·) p q) : d.offsetOf p.1 p.2 < d.offsetOf q.1 q.2 := by
  obtain ⟨as, l, bs, hls, hline, hcolumn⟩ := hq.exists_around
  rw [hline, offsetOf_around hls hcolumn]
  rcases Prod.lex_def.1 h with hlt | ⟨heq, hlt⟩
  · -- the line of the first place is one of those above the second
    obtain ⟨cs, m, ds, rfl, hcs⟩ := Document.exists_around (hline ▸ hlt)
    have hls' : d.lines = cs ++ m :: (ds ++ l :: bs) := by rw [hls]; simp
    have hm : p.2 ≤ m.length := by
      have hle := hp.2
      rwa [hls', ← hcs, getD_around] at hle
    have hlength : (above (cs ++ m :: ds)).length =
        (above cs).length + (m.length + 1) + (above ds).length := by
      simp only [above, List.flatMap_append, List.flatMap_cons, List.length_append,
        List.length_singleton]
      omega
    rw [← hcs, offsetOf_around hls' hm, hlength]
    omega
  · have hp2 : p.2 ≤ l.length := by omega
    rw [heq, hline, offsetOf_around hls hp2]
    omega

/-- The place of an offset, and what it says of the text in front. -/
theorem place_of_offset (hne : d.lines ≠ []) (hlines : ∀ l ∈ d.lines, '\n' ∉ l) {o : Nat}
    (ho : o ≤ d.text.length) :
    d.HasPlace (d.positionOf o) ∧
      (d.positionOf o).1 = (d.text.take o).count '\n' ∧
      (d.positionOf o).2 = (Text.lastPart '\n' (d.text.take o)).length ∧
      d.offsetOf (d.positionOf o).1 (d.positionOf o).2 = o := by
  obtain ⟨as, l, bs, i, hls, hi, rfl⟩ := Text.exists_place hne ho
  have htext : d.text = unlines (as ++ l :: bs) := by rw [text, hls]
  rw [positionOf_around hls hi, htext]
  rw [hls] at hlines
  refine ⟨hasPlace_around hls hi, ?_, ?_, ?_⟩
  · exact (Text.count_newlines_around hlines hi).symm
  · exact (Text.lastPart_around hlines hi).symm
  · rw [offsetOf_around hls hi]
    rfl

/-- **Offsets in order have places in order.** -/
theorem positionOf_lex (hne : d.lines ≠ []) (hlines : ∀ l ∈ d.lines, '\n' ∉ l) {o o' : Nat}
    (hlt : o < o') (ho' : o' ≤ d.text.length) :
    Prod.Lex (· < ·) (· < ·) (d.positionOf o) (d.positionOf o') := by
  obtain ⟨hp, -, -, hback⟩ := place_of_offset hne hlines (Nat.le_of_lt (Nat.lt_of_lt_of_le hlt ho'))
  obtain ⟨hq, -, -, hback'⟩ := place_of_offset hne hlines ho'
  rw [Prod.lex_def]
  by_contra hnot
  -- the places would be the same or the other way round, and so would the offsets
  have hrest : d.positionOf o' = d.positionOf o ∨
      Prod.Lex (· < ·) (· < ·) (d.positionOf o') (d.positionOf o) := by
    rw [Prod.lex_def, Prod.ext_iff]
    omega
  rcases hrest with heq | hlex
  · rw [heq, hback] at hback'
    omega
  · have hturned := offsetOf_lt_offsetOf hq hp hlex
    rw [hback, hback'] at hturned
    omega

/-- An offset behind the newline of the first line is looked for in the others. -/
theorem positionIn_behind {l : Text} {ls : List Text} (hne : ls ≠ []) {o : Nat} (ho : l.length < o) :
    positionIn (l :: ls) o =
      ((positionIn ls (o - (l.length + 1))).1 + 1, (positionIn ls (o - (l.length + 1))).2) := by
  rw [positionIn, if_neg (by omega)]
  exact hne

/-- An offset past the end is taken for the end. -/
theorem positionIn_of_le {ls : List Text} (hne : ls ≠ []) {o : Nat} (ho : (unlines ls).length ≤ o) :
    positionIn ls o = positionIn ls (unlines ls).length := by
  induction ls generalizing o with
  | nil => exact absurd rfl hne
  | cons l ls ih =>
    cases ls with
    | nil =>
      have hl : l.length ≤ o := ho
      show (0, min o l.length) = (0, min l.length l.length)
      rw [Nat.min_eq_right hl, Nat.min_self]
    | cons m ms =>
      have hms : m :: ms ≠ [] := List.cons_ne_nil m ms
      have hlength : (unlines (l :: m :: ms)).length = l.length + 1 + (unlines (m :: ms)).length :=
        Text.length_unlines_cons hms
      have hend : (unlines (l :: m :: ms)).length - (l.length + 1) = (unlines (m :: ms)).length := by
        omega
      rw [positionIn_behind hms (by omega), positionIn_behind hms (by omega), hend,
        ih hms (o := o - (l.length + 1)) (by omega)]

/-- **Offsets and places are one order.**  A document has a line or more, and no newline in its lines.

    Every offset of its text, the end included, has a place: a line of the document and a column of that
    line or its end.  The line is the number of newlines in front of the offset, the column the number of
    characters behind the last of them, and the offset of the place is the offset.  Every place of the
    document has an offset of the text, and the place of that offset is the place.  Of two offsets the
    smaller one has the place in front, by lines first and then by columns, and of two places the one in
    front has the smaller offset.  Offsets below zero have the place of zero, and those past the end the
    place of the end. -/
theorem offsets_and_places (hne : d.lines ≠ []) (hlines : ∀ l ∈ d.lines, '\n' ∉ l) :
    (∀ o : Nat, o ≤ d.text.length →
      d.HasPlace (d.positionOf o) ∧
      (d.positionOf o).1 = (d.text.take o).count '\n' ∧
      (d.positionOf o).2 = (Text.lastPart '\n' (d.text.take o)).length ∧
      d.offsetOf (d.positionOf o).1 (d.positionOf o).2 = o) ∧
    (∀ p, d.HasPlace p →
      0 ≤ d.offsetOf p.1 p.2 ∧ d.offsetOf p.1 p.2 ≤ d.text.length ∧
      d.positionOf (d.offsetOf p.1 p.2) = p) ∧
    (∀ o o' : Nat, o < o' → o' ≤ d.text.length →
      Prod.Lex (· < ·) (· < ·) (d.positionOf o) (d.positionOf o')) ∧
    (∀ p q, d.HasPlace p → d.HasPlace q → Prod.Lex (· < ·) (· < ·) p q →
      d.offsetOf p.1 p.2 < d.offsetOf q.1 q.2) ∧
    (∀ o : Int, o < 0 → d.positionOf o = d.positionOf 0) ∧
    ∀ o : Int, d.text.length < o → d.positionOf o = d.positionOf d.text.length := by
  refine ⟨fun o ho => place_of_offset hne hlines ho, ?_, fun o o' => positionOf_lex hne hlines,
    fun p q hp hq => offsetOf_lt_offsetOf hp hq, ?_, ?_⟩
  · intro p hp
    obtain ⟨o, ho, hoffset, hback⟩ := hp.offsetOf
    rw [hoffset]
    exact ⟨Int.natCast_nonneg o, Int.ofNat_le.2 ho, hback⟩
  · intro o ho
    have hzero : o.toNat = (0 : Int).toNat := by omega
    rw [positionOf, positionOf, hzero]
  · intro o ho
    have hle : d.text.length ≤ o.toNat := by omega
    rw [positionOf, positionOf, Int.toNat_natCast]
    exact positionIn_of_le hne hle

/-- Three lines, of which the one in the middle is empty. -/
theorem offsets_and_places_empty_line :
    let d : Document := .ofText ['a', 'b', '\n', '\n', 'c']
    d.lines ≠ [] ∧ (∀ l ∈ d.lines, '\n' ∉ l) ∧
      d.positionOf 3 = (1, 0) ∧ d.offsetOf 1 0 = 3 ∧ d.HasPlace (0, 2) ∧ d.HasPlace (2, 1) ∧
      d.offsetOf 0 2 < d.offsetOf 2 1 ∧ d.positionOf (-4) = (0, 0) ∧ d.positionOf 9 = (2, 1) := by
  intro d
  have hne : d.lines ≠ [] := by decide
  have hlines : ∀ l ∈ d.lines, '\n' ∉ l := by decide
  obtain ⟨hplaces, -, -, horder, hbelow, hpast⟩ := offsets_and_places hne hlines
  have hthird : d.positionOf (3 : Nat) = (1, 0) := by
    obtain ⟨-, hline, hcolumn, -⟩ := hplaces 3 (by decide)
    exact Prod.ext (hline.trans (by decide)) (hcolumn.trans (by decide))
  refine ⟨hne, hlines, hthird, ?_, by decide, by decide, ?_, ?_, ?_⟩
  · obtain ⟨-, -, -, hoffset⟩ := hplaces 3 (by decide)
    rw [hthird] at hoffset
    exact hoffset
  · exact horder (0, 2) (2, 1) (by decide) (by decide) (.left _ _ (by decide))
  · exact (hbelow (-4) (by decide)).trans (by decide)
  · exact (hpast 9 (by decide)).trans (by decide)

end Document

end Respell
