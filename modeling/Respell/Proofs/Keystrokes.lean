/-
  The keys edit one flat text.

  The document that keys work on is a list of lines with a cursor in one of them.  The user sees a
  text and a place in it.  This file proves that the two agree for the keys that change the text at
  the cursor or move it by one character: each does to the text and to the offset of the cursor what
  `Stroke.flat` says, which knows nothing of lines.

  1. **Taken apart at the cursor.**  `Focused as left right bs` names the lines above the cursor's
     line, that line in front of the cursor and behind it, and the lines below.  Every cursor that
     stands inside the document has such a view (`CursorInside.focused`).

  2. **One law for each key and place.**  In this view a key moves a character or a line from one
     part to another, or puts one in, or takes one out.  A key has up to three laws: inside the line,
     at its end, and at the end of the document.

  3. **The flat law.**  The text is `(above as ++ left) ++ (right ++ below bs)`, cut at the cursor.
     So each law of the view is a law of the flat text.
-/
import Mathlib.Data.List.Basic
import Respell.Proofs.Lines
import Respell.Editor.Keys

namespace Respell.Document

open Text

/-! ## A document taken apart at its cursor -/

/-- Whether the cursor stands in one of the lines, at one of its characters or at its end. -/
structure CursorInside (d : Document) : Prop where
  line_nonneg : 0 ≤ d.line
  line_lt : d.line < d.lines.length
  column_nonneg : 0 ≤ d.column
  column_le : d.column ≤ d.currentLine.length

/-- A document taken apart at its cursor: the lines above, the cursor's line in front of the cursor
    and behind it, and the lines below. -/
structure Focused (d : Document) (as : List Text) (left right : Text) (bs : List Text) : Prop where
  lines : d.lines = as ++ (left ++ right) :: bs
  line : d.line = as.length
  column : d.column = left.length

theorem lineOrEmpty_around (as : List Text) (l : Text) (bs : List Text) :
    lineOrEmpty (as ++ l :: bs) as.length = l := by
  rw [lineOrEmpty, if_neg (by omega), Int.toNat_natCast, getD_around]

/-- Every cursor inside a document can be focused on. -/
theorem CursorInside.focused {d : Document} (h : d.CursorInside) :
    ∃ as left right bs, d.Focused as left right bs := by
  obtain ⟨n, hn⟩ := Int.eq_ofNat_of_zero_le h.line_nonneg
  obtain ⟨c, hc⟩ := Int.eq_ofNat_of_zero_le h.column_nonneg
  have hlt := h.line_lt
  have hn' : n < d.lines.length := by omega
  obtain ⟨as, l, bs, hls, rfl⟩ := exists_around hn'
  have hle : c ≤ l.length := by
    have := h.column_le
    rw [currentLine, hls, hn, lineOrEmpty_around] at this
    omega
  refine ⟨as, l.take c, l.drop c, bs, ?_, hn, ?_⟩
  · rw [List.take_append_drop, hls]
  · rw [hc, List.length_take, Nat.min_eq_left hle]

namespace Focused

variable {d d' : Document} {as : List Text} {left right : Text} {bs : List Text}

theorem currentLine (h : d.Focused as left right bs) : d.currentLine = left ++ right := by
  rw [Document.currentLine, h.lines, h.line, lineOrEmpty_around]

theorem lastLine (h : d.Focused as left right bs) : d.lastLine = as.length + bs.length := by
  rw [Document.lastLine, h.lines, List.length_append, List.length_cons]
  omega

theorem cursorInside (h : d.Focused as left right bs) : d.CursorInside where
  line_nonneg := by
    rw [h.line]
    omega
  line_lt := by
    rw [h.line, h.lines, List.length_append, List.length_cons]
    omega
  column_nonneg := by
    rw [h.column]
    omega
  column_le := by
    rw [h.column, h.currentLine, List.length_append]
    omega

/-- The text, cut at the cursor. -/
theorem text (h : d.Focused as left right bs) :
    d.text = (above as ++ left) ++ (right ++ below bs) := by
  rw [Document.text, h.lines, unlines_around]
  simp

/-- The offset of the cursor is the length of what stands in front of it. -/
theorem cursor (h : d.Focused as left right bs) : d.cursor = (above as ++ left).length := by
  have hnear : nearestLine d.lines d.line = as.length := by
    rw [nearestLine, h.lines, h.line, List.length_append, List.length_cons]
    omega
  rw [Document.cursor, offsetOf, hnear, h.column, h.lines, lineStart_around, getD_around,
    List.length_append, List.length_append]
  omega

/-! ### Where the cursor stands in its line and among the lines -/

theorem column_lt {c : Char} (h : d.Focused as left (c :: right) bs) :
    d.column < d.currentLine.length := by
  rw [h.currentLine, h.column, List.length_append, List.length_cons]
  omega

theorem not_column_lt (h : d.Focused as left [] bs) : ¬ d.column < d.currentLine.length := by
  rw [h.currentLine, h.column, List.append_nil]
  omega

theorem line_lt {b : Text} (h : d.Focused as left right (b :: bs)) : d.line < d.lastLine := by
  rw [h.lastLine, h.line, List.length_cons]
  omega

theorem not_line_lt (h : d.Focused as left right []) : ¬ d.line < d.lastLine := by
  rw [h.lastLine, h.line, List.length_nil]
  omega

/-- The lines around a cursor at the start of a line that is not the first. -/
theorem lines_below {p : Text} (h : d.Focused (as ++ [p]) [] right bs) :
    d.lines = as ++ p :: right :: bs ∧ d.line = as.length + 1 := by
  constructor
  · rw [h.lines]
    simp
  · rw [h.line]
    simp

/-- The view at the cursor determines the lines and the cursor. -/
theorem unique (h : d.Focused as left right bs) (h' : d'.Focused as left right bs) :
    d.lines = d'.lines ∧ d.line = d'.line ∧ d.column = d'.column :=
  ⟨h.lines.trans h'.lines.symm, h.line.trans h'.line.symm, h.column.trans h'.column.symm⟩

/-! ## What each key does to the view -/

/-- Where a column that is a length of a part of the line stands. -/
theorem place_left (left right : Text) : place (left ++ right).length left.length = left.length := by
  refine place_natCast ?_
  rw [List.length_append]
  omega

theorem type (h : d.Focused as left right bs) (t : Text) :
    ∃ d', d.type t = .done d' () ∧ d'.Focused as (left ++ t) right bs := by
  rw [Document.type, h.line, h.column, insert_around h.lines, place_left, List.take_left,
    List.drop_left]
  refine ⟨_, rfl, ?_, h.line, ?_⟩
  · simp
  · show min (left.length : Int) (left ++ right).length + t.length = (left ++ t).length
    rw [List.length_append, List.length_append]
    omega

theorem breakLine (h : d.Focused as left right bs) :
    ∃ d', d.breakLine = .done d' () ∧ d'.Focused (as ++ [left]) [] right bs := by
  rw [Document.breakLine, h.line, h.column, split_around h.lines, place_left, List.take_left,
    List.drop_left]
  refine ⟨_, rfl, ?_, ?_, rfl⟩
  · simp
  · simp

theorem deleteForward_cons {c : Char} (h : d.Focused as left (c :: right) bs) :
    ∃ d', d.deleteForward = .done d' () ∧ d'.Focused as left right bs := by
  have hnext : ((left.length : Int) + 1) = (left ++ [c]).length := by
    rw [List.length_append, List.length_singleton]
    rfl
  have happ : left ++ c :: right = (left ++ [c]) ++ right := by simp
  rw [Document.deleteForward, if_pos h.column_lt, h.line, h.column, delete_around h.lines, place_left,
    List.take_left, hnext, happ, place_left, List.drop_left]
  refine ⟨_, rfl, rfl, h.line, ?_⟩
  show min (left.length : Int) _ = left.length
  rw [List.length_append, List.length_append]
  omega

theorem deleteForward_below {b : Text} (h : d.Focused as left [] (b :: bs)) :
    ∃ d', d.deleteForward = .done d' () ∧ d'.Focused as left b bs := by
  have hls : d.lines = as ++ left :: b :: bs := by rw [h.lines, List.append_nil]
  rw [Document.deleteForward, if_neg h.not_column_lt, if_pos h.line_lt, h.line, join_around hls]
  exact ⟨_, rfl, rfl, rfl, h.column⟩

theorem deleteForward_end (h : d.Focused as left [] []) : d.deleteForward = .done d () := by
  rw [Document.deleteForward, if_neg h.not_column_lt, if_neg h.not_line_lt]

theorem deleteBackward_concat {c : Char} (h : d.Focused as (left ++ [c]) right bs) :
    ∃ d', d.deleteBackward = .done d' () ∧ d'.Focused as left right bs := by
  have hpos : 0 < d.column := by
    rw [h.column, List.length_append, List.length_singleton]
    omega
  have hprev : ((left ++ [c]).length : Int) - 1 = left.length := by
    rw [List.length_append, List.length_singleton]
    omega
  have hplace : place (left ++ [c] ++ right).length left.length = left.length := by
    rw [List.append_assoc, place_left]
  have htake : (left ++ [c] ++ right).take left.length = left := by
    rw [List.append_assoc, List.take_left]
  rw [Document.deleteBackward, if_pos hpos, h.line, h.column, hprev, delete_around h.lines, hplace,
    htake, place_left, List.drop_left]
  refine ⟨_, rfl, rfl, h.line, ?_⟩
  show min (left.length : Int) _ = left.length
  rw [List.length_append, List.length_append]
  omega

theorem deleteBackward_above {p : Text} (h : d.Focused (as ++ [p]) [] right bs) :
    ∃ d', d.deleteBackward = .done d' () ∧ d'.Focused as p right bs := by
  have hzero : ¬ 0 < d.column := by
    rw [h.column, List.length_nil]
    omega
  obtain ⟨hls, hline⟩ := h.lines_below
  rw [Document.deleteBackward, if_neg hzero, if_pos (by omega), hline, join_around hls]
  exact ⟨_, rfl, rfl, rfl, rfl⟩

theorem deleteBackward_start (h : d.Focused [] [] right bs) : d.deleteBackward = .done d () := by
  rw [Document.deleteBackward, if_neg (by rw [h.column]; simp), if_neg (by rw [h.line]; simp)]

theorem moveLeft_concat {c : Char} (h : d.Focused as (left ++ [c]) right bs) :
    d.moveLeft.Focused as left (c :: right) bs := by
  have hcol := h.column
  rw [List.length_append, List.length_singleton] at hcol
  rw [Document.moveLeft, if_pos (by omega)]
  refine ⟨?_, h.line, ?_⟩
  · rw [h.lines]
    simp
  · show d.column - 1 = left.length
    omega

theorem moveLeft_above {p : Text} (h : d.Focused (as ++ [p]) [] right bs) :
    d.moveLeft.Focused as p [] (right :: bs) := by
  obtain ⟨hls, hline⟩ := h.lines_below
  have hprev : d.line - 1 = as.length := by omega
  rw [Document.moveLeft, if_neg (by rw [h.column]; simp), if_pos (by omega), hprev, hls,
    lineOrEmpty_around]
  exact ⟨by simp, rfl, rfl⟩

theorem moveLeft_start (h : d.Focused [] [] right bs) : d.moveLeft = d := by
  rw [Document.moveLeft, if_neg (by rw [h.column]; simp), if_neg (by rw [h.line]; simp)]

theorem moveRight_cons {c : Char} (h : d.Focused as left (c :: right) bs) :
    d.moveRight.Focused as (left ++ [c]) right bs := by
  rw [Document.moveRight, if_pos h.column_lt]
  refine ⟨?_, h.line, ?_⟩
  · rw [h.lines]
    simp
  · show d.column + 1 = (left ++ [c]).length
    rw [h.column, List.length_append, List.length_singleton]
    rfl

theorem moveRight_below {b : Text} (h : d.Focused as left [] (b :: bs)) :
    d.moveRight.Focused (as ++ [left]) [] b bs := by
  rw [Document.moveRight, if_neg h.not_column_lt, if_pos h.line_lt]
  refine ⟨?_, ?_, rfl⟩
  · rw [h.lines]
    simp
  · show d.line + 1 = (as ++ [left]).length
    rw [h.line, List.length_append, List.length_singleton]
    rfl

theorem moveRight_end (h : d.Focused as left [] []) : d.moveRight = d := by
  rw [Document.moveRight, if_neg h.not_column_lt, if_neg h.not_line_lt]

end Focused

end Respell.Document

namespace Respell

open Text

/-! ## The flat law -/

/-- The keys that change the text at the cursor or move the cursor by one character. -/
inductive Stroke where
  | character (c : Char)
  | tab
  | enter
  | backspace
  | delete
  | left
  | right
  deriving DecidableEq, Repr

namespace Stroke

/-- The numbers of the keys. -/
def IsKey : Stroke → Int → Prop
  | character c, k => k = c.toNat ∧ 32 ≤ k ∧ k ≤ 126
  | tab, k => k = 9
  | enter, k => k = 10
  | backspace, k => k = 263 ∨ k = 127
  | delete, k => k = 330
  | left, k => k = 260
  | right, k => k = 261

/-- What a key makes of a text and the offset of the cursor in it. -/
def flat : Stroke → Text → Nat → Text × Nat
  | character c, t, o => (t.take o ++ [c] ++ t.drop o, o + 1)
  | tab, t, o => (t.take o ++ [' ', ' ', ' ', ' '] ++ t.drop o, o + 4)
  | enter, t, o => (t.take o ++ ['\n'] ++ t.drop o, o + 1)
  | backspace, t, o => (t.take (o - 1) ++ t.drop o, o - 1)
  | delete, t, o => (t.take o ++ t.drop (o + 1), o)
  | left, t, o => (t, o - 1)
  | right, t, o => (t, min t.length (o + 1))

/-- What a key does to the document. -/
def run : Stroke → Document → Attempt Document DocumentError Unit
  | character c, d => d.type [c]
  | tab, d => d.type [' ', ' ', ' ', ' ']
  | enter, d => d.breakLine
  | backspace, d => d.deleteBackward
  | delete, d => d.deleteForward
  | left, d => .done d.moveLeft ()
  | right, d => .done d.moveRight ()

/-- Whether a key finds nothing to take out, at the start of the text or at its end. -/
def IsIdle (s : Stroke) (t : Text) (o : Nat) : Prop :=
  (s = backspace ∧ o = 0) ∨ (s = delete ∧ o = t.length)

end Stroke

/-- What a key has to make of a document whose cursor has an offset. -/
structure Stroke.Does (s : Stroke) (d : Document) (o : Nat) (d' : Document) : Prop where
  inside : d'.CursorInside
  text : d'.text = (s.flat d.text o).1
  cursor : d'.cursor = (s.flat d.text o).2
  idle : s.IsIdle d.text o → d' = d

/-- A document that stands for a flat text, cut at the cursor. -/
structure Document.Cut (d : Document) (u v : Text) : Prop where
  inside : d.CursorInside
  text : d.text = u ++ v
  cursor : d.cursor = u.length

theorem Document.Focused.cut {d : Document} {as : List Text} {left right : Text} {bs : List Text}
    {u v : Text} (h : d.Focused as left right bs) (hu : above as ++ left = u)
    (hv : right ++ below bs = v) : d.Cut u v :=
  ⟨h.cursorInside, by rw [h.text, hu, hv], by rw [h.cursor, hu]⟩

/-- A key does what it has to if the cuts before and after say so. -/
theorem Document.Cut.does {d d' : Document} {u v u' v' : Text} {s : Stroke} (h : d.Cut u v)
    (h' : d'.Cut u' v') (hflat : s.flat (u ++ v) u.length = (u' ++ v', u'.length))
    (hidle : ¬ s.IsIdle (u ++ v) u.length) : s.Does d u.length d' where
  inside := h'.inside
  text := by rw [h.text, hflat, h'.text]
  cursor := by rw [h.text, hflat, h'.cursor]
  idle := by
    rw [h.text]
    exact fun hi => absurd hi hidle

/-- A key that leaves the document alone does what it has to if the flat text stays too. -/
theorem Document.Cut.does_self {d : Document} {u v : Text} {s : Stroke} (h : d.Cut u v)
    (hflat : s.flat (u ++ v) u.length = (u ++ v, u.length)) : s.Does d u.length d where
  inside := h.inside
  text := by rw [h.text, hflat]
  cursor := by rw [h.text, hflat, h.cursor]
  idle := fun _ => rfl

namespace Stroke

/-! ### The flat law at a cut -/

theorem flat_put {s : Stroke} {t : Text} (u v : Text)
    (h : s.flat (u ++ v) u.length =
      ((u ++ v).take u.length ++ t ++ (u ++ v).drop u.length, u.length + t.length)) :
    s.flat (u ++ v) u.length = (u ++ t ++ v, (u ++ t).length) := by
  rw [h, List.take_left, List.drop_left, List.length_append]

theorem flat_backspace (u v : Text) (c : Char) :
    backspace.flat (u ++ [c] ++ v) (u ++ [c]).length = (u ++ v, u.length) := by
  have hlen : (u ++ [c]).length - 1 = u.length := by simp
  rw [flat, hlen, List.drop_left, List.append_assoc, List.take_left]

theorem flat_delete (u v : Text) (c : Char) :
    delete.flat (u ++ c :: v) u.length = (u ++ v, u.length) := by
  have happ : u ++ c :: v = (u ++ [c]) ++ v := by simp
  have hlen : u.length + 1 = (u ++ [c]).length := by simp
  rw [flat, List.take_left, hlen, happ, List.drop_left]

theorem flat_delete_end (u : Text) : delete.flat (u ++ []) u.length = (u ++ [], u.length) := by
  rw [flat, List.take_left, List.append_nil, List.drop_eq_nil_of_le (by omega), List.append_nil]

theorem flat_left (u v : Text) (c : Char) :
    left.flat (u ++ [c] ++ v) (u ++ [c]).length = (u ++ c :: v, u.length) := by
  simp [flat]

theorem flat_right (u v : Text) (c : Char) :
    right.flat (u ++ c :: v) u.length = (u ++ [c] ++ v, (u ++ [c]).length) := by
  simp only [flat, List.length_append, List.length_cons, List.length_nil, List.append_assoc,
    List.singleton_append]
  congr 1
  omega

theorem flat_right_end (u : Text) : right.flat (u ++ []) u.length = (u ++ [], u.length) := by
  simp [flat]

/-- **Each key does what its flat law says**, wherever the cursor stands.  The cases are the places
    that lines make different: inside a line, at its end next to another line, and at the end of the
    text. -/
theorem exists_does {d : Document} (hd : d.CursorInside) (s : Stroke) :
    ∃ o : Nat, d.cursor = o ∧ ∃ d', s.run d = .done d' () ∧ s.Does d o d' := by
  obtain ⟨as, left, right, bs, h⟩ := hd.focused
  have hcut := h.cut rfl rfl
  refine ⟨_, h.cursor, ?_⟩
  cases s with
  | character c =>
    obtain ⟨d', hd', h'⟩ := h.type [c]
    have hcut' := h'.cut (u := above as ++ left ++ [c]) (by simp) rfl
    exact ⟨d', hd', hcut.does hcut' (flat_put _ _ rfl) (by simp [IsIdle])⟩
  | tab =>
    obtain ⟨d', hd', h'⟩ := h.type [' ', ' ', ' ', ' ']
    have hcut' := h'.cut (u := above as ++ left ++ [' ', ' ', ' ', ' ']) (by simp) rfl
    exact ⟨d', hd', hcut.does hcut' (flat_put _ _ rfl) (by simp [IsIdle])⟩
  | enter =>
    obtain ⟨d', hd', h'⟩ := h.breakLine
    have hcut' := h'.cut (u := above as ++ left ++ ['\n']) (by simp) rfl
    exact ⟨d', hd', hcut.does hcut' (flat_put _ _ rfl) (by simp [IsIdle])⟩
  | backspace =>
    rcases List.eq_nil_or_concat' left with rfl | ⟨left, c, rfl⟩
    · rcases List.eq_nil_or_concat' as with rfl | ⟨as, p, rfl⟩
      · exact ⟨d, h.deleteBackward_start, hcut.does_self (by simp [flat])⟩
      · -- the character in front of the cursor is the newline of the line above
        obtain ⟨d', hd', h'⟩ := h.deleteBackward_above
        have hcut := h.cut (u := above as ++ p ++ ['\n']) (by simp) rfl
        have hlen : (above (as ++ [p]) ++ []).length = (above as ++ p ++ ['\n']).length := by simp
        rw [hlen]
        exact ⟨d', hd', hcut.does (h'.cut rfl rfl) (flat_backspace _ _ _) (by simp [IsIdle])⟩
    · obtain ⟨d', hd', h'⟩ := h.deleteBackward_concat
      rw [← List.append_assoc] at hcut ⊢
      exact ⟨d', hd', hcut.does (h'.cut rfl rfl) (flat_backspace _ _ _) (by simp [IsIdle])⟩
  | delete =>
    cases right with
    | nil =>
      cases bs with
      | nil => exact ⟨d, h.deleteForward_end, hcut.does_self (flat_delete_end _)⟩
      | cons b bs =>
        -- the character at the cursor is the newline of its line
        obtain ⟨d', hd', h'⟩ := h.deleteForward_below
        have hcut := h.cut (v := '\n' :: (b ++ below bs)) rfl (by simp)
        exact ⟨d', hd', hcut.does (h'.cut rfl rfl) (flat_delete _ _ _) (by simp [IsIdle])⟩
    | cons c right =>
      obtain ⟨d', hd', h'⟩ := h.deleteForward_cons
      exact ⟨d', hd', hcut.does (h'.cut rfl rfl) (flat_delete _ _ _) (by simp [IsIdle])⟩
  | left =>
    rcases List.eq_nil_or_concat' left with rfl | ⟨left, c, rfl⟩
    · rcases List.eq_nil_or_concat' as with rfl | ⟨as, p, rfl⟩
      · exact ⟨d, by rw [run, h.moveLeft_start], hcut.does_self (by simp [flat])⟩
      · -- the step goes over the newline of the line above
        have hcut := h.cut (u := above as ++ p ++ ['\n']) (by simp) rfl
        have hcut' := h.moveLeft_above.cut rfl (v := '\n' :: (right ++ below bs)) (by simp)
        have hlen : (above (as ++ [p]) ++ []).length = (above as ++ p ++ ['\n']).length := by simp
        rw [hlen]
        exact ⟨_, rfl, hcut.does hcut' (flat_left _ _ _) (by simp [IsIdle])⟩
    · rw [← List.append_assoc] at hcut ⊢
      exact ⟨_, rfl, hcut.does (h.moveLeft_concat.cut rfl rfl) (flat_left _ _ _) (by simp [IsIdle])⟩
  | right =>
    cases right with
    | nil =>
      cases bs with
      | nil => exact ⟨d, by rw [run, h.moveRight_end], hcut.does_self (flat_right_end _)⟩
      | cons b bs =>
        -- the step goes over the newline of the cursor's line
        have hcut := h.cut (v := '\n' :: (b ++ below bs)) rfl (by simp)
        have hcut' := h.moveRight_below.cut (u := above as ++ left ++ ['\n']) (by simp) rfl
        exact ⟨_, rfl, hcut.does hcut' (flat_right _ _ _) (by simp [IsIdle])⟩
    | cons c right =>
      have hcut' := h.moveRight_cons.cut (u := above as ++ left ++ [c]) (by simp) rfl
      exact ⟨_, rfl, hcut.does hcut' (flat_right _ _ _) (by simp [IsIdle])⟩

end Stroke

/-- Taking out the character in front of the cursor is stepping over it and taking it out. -/
theorem Document.deleteBackward_eq_moveLeft_deleteForward {d : Document} (hd : d.CursorInside)
    (hpos : 0 < d.cursor) :
    ∃ d₁ d₂, d.deleteBackward = .done d₁ () ∧ d.moveLeft.deleteForward = .done d₂ () ∧
      d₁.lines = d₂.lines ∧ d₁.line = d₂.line ∧ d₁.column = d₂.column := by
  obtain ⟨as, left, right, bs, h⟩ := hd.focused
  rcases List.eq_nil_or_concat' left with rfl | ⟨left, c, rfl⟩
  · rcases List.eq_nil_or_concat' as with rfl | ⟨as, p, rfl⟩
    · rw [h.cursor] at hpos
      simp at hpos
    · obtain ⟨d₁, hd₁, h₁⟩ := h.deleteBackward_above
      obtain ⟨d₂, hd₂, h₂⟩ := h.moveLeft_above.deleteForward_below
      exact ⟨d₁, d₂, hd₁, hd₂, h₁.unique h₂⟩
  · obtain ⟨d₁, hd₁, h₁⟩ := h.deleteBackward_concat
    obtain ⟨d₂, hd₂, h₂⟩ := h.moveLeft_concat.deleteForward_cons
    exact ⟨d₁, d₂, hd₁, hd₂, h₁.unique h₂⟩

/-! ## The keys of the editor -/

namespace Editor

variable {e : Editor} {d d' : Document}

theorem isConverting_setDocument (e : Editor) (d : Document) :
    (e.setDocument d).isConverting = e.isConverting := rfl

theorem document?_setDocument (h : e.document? = some d) (d' : Document) :
    (e.setDocument d').document? = some d' := by
  unfold document? at h
  split at h
  · simp at h
  · rename_i hactive
    obtain ⟨hlt, _⟩ := List.getElem?_eq_some_iff.1 h
    rw [document?, setDocument, if_neg hactive]
    exact List.getElem?_set_self hlt

theorem change_eq_done (h : e.document? = some d) {f : Document → Attempt Document DocumentError Unit}
    (hf : f d = .done d' ()) : e.change f = .done (e.setDocument d') () := by
  rw [change, withDocument, h]
  simp only [hf]
  rfl

theorem move_eq_done (h : e.document? = some d) (f : Document → Document) :
    e.move f = .done (e.setDocument (f d)) () := by
  rw [move, withDocument, h]

/-- A key that is a command and succeeds. -/
theorem press_command (he : e.isConverting = false) (h : e.document? = some d) {k : Int}
    (another : Int) {c : Command} (hk : k ≠ escape) (hc : Command.ofKey? k = some c)
    (hdone : e.perform c = .done (e.setDocument d') ()) :
    ∃ goesOn, e.press k another = .done (e.setDocument d') goesOn := by
  rw [press, he, h, hc]
  simp only [Bool.false_eq_true, if_false, if_neg hk, hdone]
  exact ⟨_, rfl⟩

/-- No printable character is a command. -/
theorem ofKey?_printable {k : Int} (hlow : 32 ≤ k) (hhigh : k ≤ 126) : Command.ofKey? k = none := by
  have hkeys : ∀ p ∈ Command.keys, p.1 < 32 ∨ 126 < p.1 := by decide
  rw [Command.ofKey?, List.lookup_eq_none_iff]
  intro p hp
  have := hkeys p hp
  simp only [bne_iff_ne, ne_eq]
  omega

/-- A key that is a printable character and can be typed. -/
theorem press_printable (he : e.isConverting = false) (h : e.document? = some d) {k : Int}
    (another : Int) (hlow : 32 ≤ k) (hhigh : k ≤ 126)
    (hdone : d.type [Char.ofNat k.toNat] = .done d' ()) :
    ∃ goesOn, e.press k another = .done (e.setDocument d') goesOn := by
  have hk : k ≠ escape := by
    unfold escape
    omega
  have hchange : e.change (·.type [Char.ofNat k.toNat]) = .done (e.setDocument d') () :=
    change_eq_done h hdone
  rw [press, he, h, ofKey?_printable hlow hhigh]
  simp only [Bool.false_eq_true, if_false, if_neg hk, if_pos (And.intro hlow hhigh), hchange]
  exact ⟨_, rfl⟩

/-- **What a key does to the document it does to the editor.** -/
theorem press_stroke (he : e.isConverting = false) (h : e.document? = some d) {s : Stroke} {k : Int}
    (another : Int) (hk : s.IsKey k) (hrun : s.run d = .done d' ()) :
    ∃ goesOn, e.press k another = .done (e.setDocument d') goesOn := by
  cases s with
  | character c =>
    obtain ⟨rfl, hlow, hhigh⟩ := hk
    refine press_printable he h another hlow hhigh ?_
    rw [Int.toNat_natCast, Char.ofNat_toNat]
    exact hrun
  | tab =>
    obtain rfl := hk
    exact press_command he h another (by decide) (c := .tab) (by decide) (change_eq_done h hrun)
  | enter =>
    obtain rfl := hk
    exact press_command he h another (by decide) (c := .enter) (by decide) (change_eq_done h hrun)
  | backspace =>
    have hdone : e.perform .deleteBackward = .done (e.setDocument d') () := change_eq_done h hrun
    rcases hk with rfl | rfl
    · exact press_command he h another (by decide) (by decide) hdone
    · exact press_command he h another (by decide) (by decide) hdone
  | delete =>
    obtain rfl := hk
    exact press_command he h another (by decide) (c := .deleteForward) (by decide)
      (change_eq_done h hrun)
  | left =>
    obtain rfl := hk
    obtain rfl : d.moveLeft = d' := congrArg Attempt.state hrun
    exact press_command he h another (by decide) (c := .left) (by decide) (move_eq_done h _)
  | right =>
    obtain rfl := hk
    obtain rfl : d.moveRight = d' := congrArg Attempt.state hrun
    exact press_command he h another (by decide) (c := .right) (by decide) (move_eq_done h _)

/-- **Keys edit a flat text.**  While the dialog is closed and the cursor stands inside the document,
    a key of `Stroke` succeeds and does to the text and the offset of the cursor what its flat law
    says, and leaves the document as it is if there is nothing to take out.  Taking out the character
    in front of the cursor comes to the same as a step back and taking out the one at the cursor. -/
theorem keys_edit_flat_text (he : e.isConverting = false) (h : e.document? = some d)
    (hin : d.CursorInside) :
    ∃ o : Nat, d.cursor = o ∧ o ≤ d.text.length ∧
      (∀ s k another, Stroke.IsKey s k →
        ∃ d' goesOn, e.press k another = .done (e.setDocument d') goesOn ∧ s.Does d o d') ∧
      (0 < o → ∀ k another, Stroke.backspace.IsKey k → ∃ d₁ d₂,
        (e.press k another).state.document? = some d₁ ∧
        ((e.press 260 another).state.press 330 another).state.document? = some d₂ ∧
        d₁.lines = d₂.lines ∧ d₁.line = d₂.line ∧ d₁.column = d₂.column) := by
  obtain ⟨as, left, right, bs, hf⟩ := hin.focused
  refine ⟨_, hf.cursor, ?_, fun s k another hk => ?_, fun hpos k another hk => ?_⟩
  · rw [hf.text]
    simp only [List.length_append]
    omega
  · obtain ⟨o, ho, d', hrun, hdoes⟩ := Stroke.exists_does hin s
    obtain rfl : (above as ++ left).length = o := by
      have := hf.cursor.symm.trans ho
      omega
    obtain ⟨goesOn, hpress⟩ := press_stroke he h another hk hrun
    exact ⟨d', goesOn, hpress, hdoes⟩
  · have hcursor : 0 < d.cursor := by
      rw [hf.cursor]
      omega
    obtain ⟨d₁, d₂, hback, hforward, hsame⟩ :=
      Document.deleteBackward_eq_moveLeft_deleteForward hin hcursor
    obtain ⟨_, hpress⟩ := press_stroke he h another hk (s := .backspace) hback
    obtain ⟨_, hleft⟩ := press_stroke he h another (s := .left) rfl rfl
    have h' := document?_setDocument h d.moveLeft
    have he' := (isConverting_setDocument e d.moveLeft).trans he
    obtain ⟨_, hdelete⟩ := press_stroke he' h' another (s := .delete) rfl hforward
    refine ⟨d₁, d₂, ?_, ?_, hsame⟩
    · rw [hpress]
      exact document?_setDocument h d₁
    · rw [hleft]
      show ((e.setDocument d.moveLeft).press 330 another).state.document? = some d₂
      rw [hdelete]
      exact document?_setDocument h' d₂

/-- An editor on the smallest screen with one document and nothing else. -/
def onDocument (d : Document) : Editor where
  session := .start Settings.default none
  documents := [d]
  active := 0
  height := leastHeight
  width := leastWidth
  windows := windowsOf leastHeight leastWidth
  message := none
  dialog := ⟨none, .hex, .this⟩
  leaving := false
  world := ⟨⟨[], [], 9⟩, .empty, .nan⟩
  notes := []
  drawn := []

/-- The cursor in front of the second of three lines, and the key that joins it to the first. -/
theorem keys_edit_flat_text_join :
    let d := (Document.ofText ['a', 'b', '\n', '\n', 'c']).moveDown
    (onDocument d).isConverting = false ∧ (onDocument d).document? = some d ∧ d.CursorInside ∧
      ∃ d' goesOn, (onDocument d).press 127 0 = .done ((onDocument d).setDocument d') goesOn ∧
        d'.text = ['a', 'b', '\n', 'c'] ∧ d'.cursor = 2 := by
  intro d
  have hin : d.CursorInside := ⟨by decide, by decide, by decide, by decide⟩
  obtain ⟨o, ho, _, hkeys, _⟩ := keys_edit_flat_text (e := onDocument d) rfl rfl hin
  obtain rfl : o = 3 := by
    have : d.cursor = 3 := by decide
    omega
  obtain ⟨d', goesOn, hpress, hdoes⟩ := hkeys .backspace 127 0 (Or.inr rfl)
  have htext : d.text = ['a', 'b', '\n', '\n', 'c'] := by decide
  refine ⟨rfl, rfl, hin, d', goesOn, hpress, ?_, ?_⟩
  · rw [hdoes.text, htext]
    rfl
  · rw [hdoes.cursor]
    rfl

end Editor

end Respell
