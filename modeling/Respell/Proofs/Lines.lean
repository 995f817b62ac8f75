/-
  A line in its text.

  A document holds lines, and most laws about it are laws about the one text that they make.  This
  file is the bridge.  A list of lines is taken apart at one of them, `as ++ l :: bs`, and then the
  text is

      above as ++ l ++ below bs

  where `above` closes each line with a newline and `below` opens each with one (`text_around`).  An
  offset inside the line is the length of `above as` and a column (`lineStart_around`), so cutting
  the text there cuts the line (`take_around`, `drop_around`).  All that an operation does to a list
  of lines it does to `as`, `l` and `bs`, and what it does to the text is then read off.
-/
import Respell.Document

namespace Respell.Text

/-! ## The text around a line -/

/-- The text of the lines above a line. -/
def above (ls : List Text) : Text := ls.flatMap (· ++ ['\n'])

/-- The text of the lines below a line. -/
def below (ls : List Text) : Text := ls.flatMap ('\n' :: ·)

@[simp] theorem above_nil : above [] = [] := rfl

@[simp] theorem below_nil : below [] = [] := rfl

@[simp] theorem above_append (as bs : List Text) : above (as ++ bs) = above as ++ above bs := by
  simp [above]

@[simp] theorem above_singleton (l : Text) : above [l] = l ++ ['\n'] := by simp [above]

@[simp] theorem below_cons (l : Text) (ls : List Text) : below (l :: ls) = '\n' :: (l ++ below ls) := by
  simp [below]

theorem unlines_cons : ∀ (l : Text) (ls : List Text), unlines (l :: ls) = l ++ below ls
  | l, [] => by simp [unlines, join]
  | l, m :: ms => by
    have ih := unlines_cons m ms
    rw [unlines, join_cons _ _ (List.cons_ne_nil m ms), below_cons]
    rw [unlines] at ih
    rw [ih]
    simp

/-- **A line in its text**, with what stands above and below it. -/
theorem unlines_around : ∀ (as : List Text) (l : Text) (bs : List Text),
    unlines (as ++ l :: bs) = above as ++ l ++ below bs
  | [], l, bs => by simp [unlines_cons]
  | a :: as, l, bs => by
    have ih := unlines_around as l bs
    rw [List.cons_append, unlines, join_cons _ _ (by simp), ← unlines, ih]
    simp [above]

/-- Cutting the text inside a line cuts the line, seen from the start. -/
theorem take_around (as : List Text) (l : Text) (bs : List Text) {i : Nat} (hi : i ≤ l.length) :
    (unlines (as ++ l :: bs)).take ((above as).length + i) = above as ++ l.take i := by
  rw [unlines_around, List.append_assoc, List.take_length_add_append,
    List.take_append_of_le_length hi]

/-- Cutting the text inside a line cuts the line, seen from the end. -/
theorem drop_around (as : List Text) (l : Text) (bs : List Text) {i : Nat} (hi : i ≤ l.length) :
    (unlines (as ++ l :: bs)).drop ((above as).length + i) = l.drop i ++ below bs := by
  rw [unlines_around, List.append_assoc, List.drop_length_add_append,
    List.drop_append_of_le_length hi]

/-! ## What a change of lines does to the text -/

/-- Replacing a part of a line replaces that part of the text.  The part may have crossed ends, and
    then what lies between them is there twice. -/
theorem unlines_replace (as : List Text) (l : Text) (bs : List Text) (t : Text) {i j : Nat}
    (hi : i ≤ l.length) (hj : j ≤ l.length) :
    unlines (as ++ (l.take i ++ t ++ l.drop j) :: bs) =
      (unlines (as ++ l :: bs)).take ((above as).length + i) ++ t ++
        (unlines (as ++ l :: bs)).drop ((above as).length + j) := by
  rw [take_around as l bs hi, drop_around as l bs hj, unlines_around]
  simp

/-- Breaking a line puts a newline into the text. -/
theorem unlines_break (as : List Text) (l : Text) (bs : List Text) {i : Nat} (hi : i ≤ l.length) :
    unlines (as ++ l.take i :: l.drop i :: bs) =
      (unlines (as ++ l :: bs)).take ((above as).length + i) ++ ['\n'] ++
        (unlines (as ++ l :: bs)).drop ((above as).length + i) := by
  rw [take_around as l bs hi, drop_around as l bs hi, unlines_around, below_cons]
  simp

/-- Joining a line to the one above it takes the newline in front of it out of the text. -/
theorem unlines_join (as : List Text) (p l : Text) (bs : List Text) :
    unlines (as ++ (p ++ l) :: bs) =
      (unlines (as ++ p :: l :: bs)).take ((above (as ++ [p])).length - 1) ++
        (unlines (as ++ p :: l :: bs)).drop (above (as ++ [p])).length := by
  have htake := take_around as p (l :: bs) (Nat.le_refl p.length)
  have hdrop := drop_around (as ++ [p]) l bs (Nat.zero_le l.length)
  rw [List.append_assoc, List.singleton_append, Nat.add_zero, List.drop_zero] at hdrop
  have hlen : (above (as ++ [p])).length - 1 = (above as).length + p.length := by
    simp only [above_append, above_singleton, List.length_append, List.length_singleton]
    omega
  rw [hlen, htake, hdrop, unlines_around, List.take_length]
  simp

/-- Taking a line out takes its characters out of the text and the newline behind them. -/
theorem unlines_erase (as : List Text) (l b : Text) (bs : List Text) :
    unlines (as ++ b :: bs) =
      (unlines (as ++ l :: b :: bs)).take (above as).length ++
        (unlines (as ++ l :: b :: bs)).drop (above (as ++ [l])).length := by
  have htake := take_around as l (b :: bs) (Nat.zero_le l.length)
  have hdrop := drop_around (as ++ [l]) b bs (Nat.zero_le b.length)
  rw [List.append_assoc, List.singleton_append, Nat.add_zero, List.drop_zero] at hdrop
  rw [Nat.add_zero] at htake
  rw [htake, hdrop, unlines_around]
  simp

/-- Taking the last line out takes its characters out of the text and the newline in front of
    them. -/
theorem unlines_erase_last (as : List Text) (p l : Text) :
    unlines (as ++ [p]) =
      (unlines (as ++ [p] ++ [l])).take ((above (as ++ [p])).length - 1) := by
  have htake := take_around as p [l] (Nat.le_refl p.length)
  have hlen : (above (as ++ [p])).length - 1 = (above as).length + p.length := by
    simp only [above_append, above_singleton, List.length_append, List.length_singleton]
    omega
  rw [List.append_assoc, List.singleton_append, hlen, htake, unlines_around, List.take_length]
  simp

/-- The place of a column cut to a line from above is the place of the column. -/
theorem place_min (n : Nat) (c : Int) : place n (min c n) = place n c := by
  unfold place
  split <;> split <;> omega

end Respell.Text

namespace Respell.Document

open Text

/-! ## Lists of lines, taken apart at one of them -/

theorem exists_around {ls : List Text} {n : Nat} (h : n < ls.length) :
    ∃ as l bs, ls = as ++ l :: bs ∧ as.length = n := by
  refine ⟨ls.take n, ls[n], ls.drop (n + 1), ?_, ?_⟩
  · rw [← List.drop_eq_getElem_cons h, List.take_append_drop]
  · rw [List.length_take]
    omega

/-- One of several lines has others beside it. -/
theorem around_ne_nil {ls as bs : List Text} {l : Text} (h : ls = as ++ l :: bs) (hmore : ls.length ≠ 1) :
    as ++ bs ≠ [] := by
  intro hnil
  obtain ⟨rfl, rfl⟩ := List.append_eq_nil_iff.1 hnil
  exact hmore (congrArg List.length h)

@[simp] theorem getD_around (as : List Text) (l : Text) (bs : List Text) :
    (as ++ l :: bs).getD as.length [] = l := by
  simp

@[simp] theorem set_around (as : List Text) (l m : Text) (bs : List Text) :
    (as ++ l :: bs).set as.length m = as ++ m :: bs := by
  simp

@[simp] theorem eraseIdx_around (as : List Text) (l : Text) (bs : List Text) :
    (as ++ l :: bs).eraseIdx as.length = as ++ bs := by
  simp [List.eraseIdx_append_of_length_le]

/-- The offset at which a line starts is the length of the text above it. -/
theorem lineStart_around (as bs : List Text) :
    lineStart (as ++ bs) as.length = (above as).length := by
  rw [lineStart, List.take_left]
  induction as with
  | nil => rfl
  | cons a as ih =>
    rw [List.foldr_cons, ih, above, above, List.flatMap_cons, List.length_append, List.length_append,
      List.length_singleton]

/-! ## What the operations do to a line

  Each operation on a line that is there, with the document taken apart at that line.  The columns
  may be any integers. -/

section Around

variable {d : Document} {as : List Text} {l : Text} {bs : List Text}

theorem length_around (h : d.lines = as ++ l :: bs) : ¬ (d.lines.length : Int) ≤ as.length := by
  rw [h]
  simp only [List.length_append, List.length_cons]
  omega

theorem index?_around (h : d.lines = as ++ l :: bs) :
    Text.index? d.lines.length as.length = some as.length := by
  refine Text.index?_natCast ?_
  rw [h]
  simp

theorem insert_around (h : d.lines = as ++ l :: bs) (c : Int) (t : Text) :
    let new := l.take (place l.length c) ++ t ++ l.drop (place l.length c)
    d.insert as.length c t = .done
      { d.record (.line as.length l new) with
        lines := as ++ new :: bs, modified := true, column := min c l.length + t.length } () := by
  unfold insert replaceLine
  rw [if_neg (length_around h), index?_around h]
  simp only [h, getD_around, set_around, before, after, place_min, record]

theorem delete_around (h : d.lines = as ++ l :: bs) (i j : Int) :
    let new := l.take (place l.length i) ++ l.drop (place l.length j)
    d.delete as.length i j = .done
      { d.record (.line as.length l new) with
        lines := as ++ new :: bs, modified := true, column := min i l.length } () := by
  unfold delete replaceLine
  rw [if_neg (length_around h), index?_around h]
  simp only [h, getD_around, set_around, before, after, place_min, record]

theorem insertAt_around (as : List Text) (l m : Text) (bs : List Text) :
    insertAt (as ++ l :: bs) (as.length + 1) m = as ++ l :: m :: bs := by
  have hplace : place (as ++ l :: bs).length ((as.length : Int) + 1) = as.length + 1 := by
    unfold place
    simp only [List.length_append, List.length_cons]
    split <;> omega
  have happ : as ++ l :: bs = (as ++ [l]) ++ bs := by simp
  have hlen : as.length + 1 = (as ++ [l]).length := by simp
  rw [insertAt, hplace, happ, hlen, List.take_left, List.drop_left]
  simp

theorem split_around (h : d.lines = as ++ l :: bs) (c : Int) :
    d.split as.length c = .done
      { d.snapshot with
        lines := as ++ l.take (place l.length c) :: l.drop (place l.length c) :: bs
        line := as.length + 1, column := 0, modified := true } () := by
  unfold split
  have hls : d.snapshot.lines = as ++ l :: bs := h
  simp only [if_neg (length_around h), index?_around hls]
  simp only [hls, getD_around, set_around, before, after, place_min, insertAt_around]

theorem join_around {p : Text} (h : d.lines = as ++ p :: l :: bs) :
    d.join (as.length + 1) =
      { d.snapshot with
        lines := as ++ (p ++ l) :: bs
        line := as.length, column := p.length, modified := true } := by
  have hlen : d.lines.length = as.length + (bs.length + 2) := by
    rw [h]
    simp
  have hls : d.snapshot.lines = as ++ p :: l :: bs := h
  have hnext : ((as.length : Int) + 1).toNat = (as ++ [p]).length := by
    rw [List.length_append, List.length_singleton]
    omega
  have hprev : (as ++ [p]).length - 1 = as.length := by simp
  have happ : ∀ m ms, as ++ m :: ms = (as ++ [m]) ++ ms := by simp
  unfold join
  rw [if_pos (by omega)]
  simp only [hls, hnext, hprev, getD_around, set_around]
  have hget : (as ++ p :: l :: bs).getD (as ++ [p]).length [] = l := by
    rw [happ p]
    exact getD_around (as ++ [p]) l bs
  have herase : (as ++ (p ++ l) :: l :: bs).eraseIdx (as ++ [p]).length = as ++ (p ++ l) :: bs := by
    rw [happ (p ++ l) (l :: bs), happ (p ++ l) bs,
      show (as ++ [p]).length = (as ++ [p ++ l]).length by simp]
    exact eraseIdx_around (as ++ [p ++ l]) l bs
  rw [hget, herase]
  simp

theorem deleteLine_around (h : d.lines = as ++ l :: bs) (hne : as ++ bs ≠ []) :
    d.deleteLine as.length = .done
      { d.snapshot with
        lines := as ++ bs
        line :=
          if as.length < d.line then d.line - 1
          else if ((as ++ bs).length : Int) ≤ d.line then (as ++ bs).length - 1
          else d.line
        modified := true } () := by
  have hls : d.snapshot.lines = as ++ l :: bs := h
  have hlen : d.lines.length = (as ++ bs).length + 1 := by
    rw [h]
    simp only [List.length_append, List.length_cons]
    omega
  have hpos := List.length_pos_iff.2 hne
  unfold deleteLine
  rw [if_neg]
  · simp only [index?_around hls]
    simp only [hls, eraseIdx_around]
    rfl
  · rintro (hle | hone)
    · exact length_around h hle
    · omega

end Around

end Respell.Document
