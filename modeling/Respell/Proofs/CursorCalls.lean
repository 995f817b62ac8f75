/-
  Calls that keep the cursor inside.

  A call sets the line of the cursor, its column, or both, and each in a way of its own.  This file says of
  every call whether the cursor stands inside the document afterwards, whatever the document's history is.

  1. **Which calls** (`Call.Fits`).  Lines and columns count from the start, and what is put into a line or
     taken out of it is in the line of the cursor, since these calls set the column alone.

  2. **All but one** of them put the cursor inside, from wherever it stands in a line, or change nothing
     (`CursorOnLine.settles`).

  3. **Taking out a line** sets the line of the cursor and leaves the column.  That is right where the
     cursor keeps its line.  Where its own line goes, it comes into another one (`Document.heir`), which may
     end in front of the column (`Call.Strands`).

  4. **The law** (`calls_keep_cursor`).  This is the one way for the cursor to get outside, and even then it
     stays in a line, in any run.
-/
import Mathlib.Data.List.GetD
import Respell.Proofs.CursorKept
import Respell.Proofs.Filing

namespace Respell.Document

open Text

variable {d d' : Document} {as bs : List Text} {l : Text}

/-! ## Calls -/

/-- Whether a call counts lines and columns from the start, and types and deletes in the cursor's line. -/
def Call.Fits (d : Document) : Call → Prop
  | .setText _ | .moveTo _ | .applyEdits _ | .undo | .redo => True
  | .place _ _ => False
  | .insert line column _ => line = d.line ∧ 0 ≤ column
  | .delete line start stop => line = d.line ∧ 0 ≤ start ∧ 0 ≤ stop
  | .split line column => 0 ≤ line ∧ 0 ≤ column
  | .join line => 0 ≤ line
  | .deleteLine line => 0 ≤ line

/-- The line in which the cursor stands when its own is taken out: the next one, or, if there is none, the
    one before. -/
def heir (d : Document) : Text :=
  lineOrEmpty d.lines (if d.line < d.lastLine then d.line + 1 else d.line - 1)

/-- Whether a call takes out the line of the cursor and the cursor comes into one that is too short. -/
def Call.Strands (d : Document) (c : Call) : Prop :=
  c = .deleteLine d.line ∧ d.lines.length ≠ 1 ∧ (d.heir.length : Int) < d.column

/-- Whether each call of a run is of a kind in the document that it meets. -/
def AllAlong (p : Document → Call → Prop) : Document → List Call → Prop
  | _, [] => True
  | d, c :: cs => p d c ∧ AllAlong p (d.after c) cs

instance (d : Document) (c : Call) : Decidable (c.Fits d) := by
  cases c <;> unfold Call.Fits <;> infer_instance

instance (d : Document) (c : Call) : Decidable (c.Strands d) := by
  unfold Call.Strands
  infer_instance

instance decidableAllAlong (p : Document → Call → Prop) [∀ d c, Decidable (p d c)] :
    (d : Document) → (cs : List Call) → Decidable (d.AllAlong p cs)
  | _, [] => isTrue trivial
  | d, c :: cs =>
    have := decidableAllAlong p (d.after c) cs
    inferInstanceAs (Decidable (p d c ∧ _))

/-! ## Calls that put the cursor inside -/

/-- The cursor stands inside a line that is among the others if it does not stand behind its end. -/
theorem cursorInside_around (hlines : d.lines = as ++ l :: bs) (hline : d.line = as.length)
    (h0 : 0 ≤ d.column) (hle : d.column ≤ l.length) : d.CursorInside := by
  have hcurrent : d.currentLine = l := by
    rw [currentLine, hlines, hline, lineOrEmpty_around]
  refine ⟨by omega, ?_, h0, hcurrent ▸ hle⟩
  rw [hline, hlines, List.length_append, List.length_cons]
  omega

theorem settles_split {line : Int} (hline : 0 ≤ line) (column : Int) :
    d.Settles (d.split line column).state := by
  obtain ⟨n, rfl⟩ := Int.eq_ofNat_of_zero_le hline
  by_cases hn : n < d.lines.length
  · obtain ⟨as, l, bs, hls, rfl⟩ := exists_around hn
    rw [split_around hls column]
    -- the cursor is at the start of the second part
    have hparts : as ++ l.take (place l.length column) :: l.drop (place l.length column) :: bs =
        (as ++ [l.take (place l.length column)]) ++ l.drop (place l.length column) :: bs := by
      simp
    refine .inl (cursorInside_around hparts ?_ (Int.le_refl 0) (Int.natCast_nonneg _))
    show (as.length : Int) + 1 = _
    simp
  · rw [split, if_pos (by omega)]
    exact .refl d

theorem settles_join (d : Document) (line : Int) : d.Settles (d.join line) := by
  by_cases hline : 0 < line ∧ line < d.lines.length
  · obtain ⟨n, rfl⟩ : ∃ n : Nat, line = n + 1 := ⟨(line - 1).toNat, by omega⟩
    obtain ⟨as, p, ls, hls, rfl⟩ := Document.exists_around (show n < d.lines.length by omega)
    obtain ⟨l, bs, rfl⟩ : ∃ l bs, ls = l :: bs := by
      refine List.exists_cons_of_ne_nil ?_
      rintro rfl
      rw [hls, List.length_append, List.length_singleton] at hline
      omega
    rw [join_around hls]
    refine .inl (cursorInside_around rfl rfl (Int.natCast_nonneg _) ?_)
    show (p.length : Int) ≤ _
    rw [List.length_append]
    omega
  · rw [join, if_neg hline]
    exact .refl d

namespace CursorOnLine

theorem exists_around (h : d.CursorOnLine) :
    ∃ as l bs, d.lines = as ++ l :: bs ∧ d.line = as.length := by
  obtain ⟨n, hn⟩ := Int.eq_ofNat_of_zero_le h.line_nonneg
  have hlt := h.line_lt
  obtain ⟨as, l, bs, hls, rfl⟩ := Document.exists_around (show n < d.lines.length by omega)
  exact ⟨as, l, bs, hls, hn⟩

theorem setText (h : d.CursorOnLine) (t : Text) : (d.setText t).state.CursorInside := by
  have hpos : 0 < (Text.lines t).length := List.length_pos_iff.2 (split_ne_nil '\n' t)
  have h0 := h.line_nonneg
  have hcolumn := h.column_nonneg
  obtain ⟨n, hn⟩ := Int.eq_ofNat_of_zero_le (a := min d.line ((Text.lines t).length - 1)) (by omega)
  have hlt : n < (Text.lines t).length := by omega
  have hset : d.setText t = .done { d with
      lines := Text.lines t, line := n, column := min d.column ((Text.lines t).getD n []).length } () := by
    unfold Document.setText
    simp only [hn, index?_natCast hlt]
  rw [hset]
  obtain ⟨as, l, bs, hls, rfl⟩ := Document.exists_around hlt
  refine cursorInside_around hls rfl ?_ ?_
  · show 0 ≤ min d.column _
    omega
  · show min d.column _ ≤ (l.length : Int)
    rw [hls, getD_around]
    exact Int.min_le_right _ _

theorem insert (h : d.CursorOnLine) {column : Int} (hcolumn : 0 ≤ column) (t : Text) :
    (d.insert d.line column t).state.CursorInside := by
  obtain ⟨as, l, bs, hls, hline⟩ := h.exists_around
  rw [hline, insert_around hls column t]
  refine cursorInside_around rfl hline ?_ ?_
  · show 0 ≤ min column l.length + (t.length : Int)
    omega
  · -- what is in front of the column and what is put in are only a part of the line
    show min column l.length + (t.length : Int) ≤ _
    simp only [List.length_append, List.length_take, List.length_drop, place]
    split <;> omega

theorem delete (h : d.CursorOnLine) {start stop : Int} (hstart : 0 ≤ start) :
    (d.delete d.line start stop).state.CursorInside := by
  obtain ⟨as, l, bs, hls, hline⟩ := h.exists_around
  rw [hline, delete_around hls start stop]
  refine cursorInside_around rfl hline ?_ ?_
  · show 0 ≤ min start (l.length : Int)
    omega
  · show min start (l.length : Int) ≤ _
    have hplace : place l.length start = min start.toNat l.length := if_neg (by omega)
    rw [List.length_append, List.length_take, hplace]
    omega

/-- **All calls but one** put the cursor inside, or change neither the lines nor the cursor. -/
theorem settles (h : d.CursorOnLine) {c : Call} (hc : c.Fits d) (hne : ∀ line, c ≠ .deleteLine line) :
    d.Settles (d.after c) := by
  cases c with
  | setText t => exact .inl (h.setText t)
  | place line column => exact absurd hc id
  | moveTo offset =>
    obtain ⟨as, l, bs, hls, -⟩ := h.exists_around
    exact .inl (.moveTo (by simp [hls]) offset)
  | insert line column t =>
    obtain ⟨rfl, hcolumn⟩ := hc
    exact .inl (h.insert hcolumn t)
  | delete line start stop =>
    obtain ⟨rfl, hstart, -⟩ := hc
    exact .inl (h.delete hstart)
  | split line column => exact settles_split hc.1 column
  | join line => exact d.settles_join line
  | deleteLine line => exact absurd rfl (hne line)
  | applyEdits es => exact h.applyEdits es
  | undo => exact h.undo
  | redo => exact h.redo

end CursorOnLine

/-! ## Taking out a line -/

/-- The lines in front of one that is taken out keep their numbers. -/
theorem lineOrEmpty_before {i : Int} (h : i < as.length) :
    lineOrEmpty (as ++ bs) i = lineOrEmpty (as ++ l :: bs) i := by
  unfold lineOrEmpty
  split
  · rfl
  · rw [List.getD_append _ _ _ _ (by omega), List.getD_append _ _ _ _ (by omega)]

/-- The lines behind one that is taken out had the numbers behind theirs. -/
theorem lineOrEmpty_behind {i : Int} (h : as.length ≤ i) :
    lineOrEmpty (as ++ bs) i = lineOrEmpty (as ++ l :: bs) (i + 1) := by
  have hnext : (i + 1).toNat - as.length = i.toNat - as.length + 1 := by omega
  rw [lineOrEmpty, lineOrEmpty, if_neg (by omega), if_neg (by omega),
    List.getD_append_right _ _ _ _ (by omega), List.getD_append_right _ _ _ _ (by omega), hnext,
    List.getD_cons_succ]

/-- The cursor moves up with its line, and it keeps its number where its own line is taken out, unless that
    was the last one. -/
theorem after_deleteLine_around (hls : d.lines = as ++ l :: bs) (hne : as ++ bs ≠ []) :
    (d.after (.deleteLine as.length)).lines = as ++ bs ∧
      (d.after (.deleteLine as.length)).line =
        (if (as.length : Int) < d.line then d.line - 1
          else if ((as ++ bs).length : Int) ≤ d.line then (as ++ bs).length - 1 else d.line) ∧
      (d.after (.deleteLine as.length)).column = d.column := by
  rw [after, deleteLine_around hls hne]
  exact ⟨rfl, rfl, rfl⟩

namespace CursorOnLine

theorem after_deleteLine_around (h : d.CursorOnLine) (hls : d.lines = as ++ l :: bs)
    (hne : as ++ bs ≠ []) : (d.after (.deleteLine as.length)).CursorOnLine := by
  obtain ⟨hlines, hline, hcolumn⟩ := Document.after_deleteLine_around hls hne
  have hpos := List.length_pos_iff.2 hne
  have h0 := h.line_nonneg
  have hlt := h.line_lt
  rw [hls, List.length_append, List.length_cons] at hlt
  rw [List.length_append] at hpos hline
  refine ⟨?_, ?_, hcolumn ▸ h.column_nonneg⟩
  · rw [hline]
    split
    · omega
    · split <;> omega
  · rw [hline, hlines, List.length_append]
    split
    · omega
    · split <;> omega

/-- The cursor keeps its line unless that is taken out. -/
theorem currentLine_after_deleteLine_around (h : d.CursorOnLine) (hls : d.lines = as ++ l :: bs)
    (hne : as ++ bs ≠ []) : (d.after (.deleteLine as.length)).currentLine =
      if (as.length : Int) = d.line then d.heir else d.currentLine := by
  obtain ⟨hlines, hline, -⟩ := Document.after_deleteLine_around hls hne
  have h0 := h.line_nonneg
  have hlt := h.line_lt
  have hlast : d.lastLine = as.length + bs.length := by
    rw [lastLine, hls, List.length_append, List.length_cons]
    omega
  rw [hls, List.length_append, List.length_cons] at hlt
  rw [List.length_append] at hline
  rw [currentLine, hlines]
  rcases Int.lt_trichotomy as.length d.line with habove | hown | hbelow
  · -- the line of the cursor has moved up by one, and the cursor with it
    rw [if_pos habove] at hline
    rw [if_neg (by omega), hline, lineOrEmpty_behind (l := l) (by omega), ← hls, Int.sub_add_cancel,
      currentLine]
  · rw [if_neg (by omega)] at hline
    rw [if_pos hown, heir, hlast, hls]
    split
    · rename_i hnext
      rw [if_neg (by omega)] at hline
      rw [hline, lineOrEmpty_behind (l := l) (by omega)]
    · rename_i hnone
      rw [if_pos (by omega)] at hline
      rw [hline, lineOrEmpty_before (l := l) (by omega)]
      congr 1
      omega
  · rw [if_neg (by omega), if_neg (by omega)] at hline
    rw [if_neg (by omega), hline, lineOrEmpty_before (l := l) (by omega), ← hls, currentLine]

/-- **Taking out a line** leaves the column, and the cursor in its line unless that is the one. -/
theorem deleteLine (h : d.CursorOnLine) {line : Int} (h0 : 0 ≤ line) (hlt : line < d.lines.length)
    (hmore : d.lines.length ≠ 1) :
    (d.after (.deleteLine line)).CursorOnLine ∧ (d.after (.deleteLine line)).column = d.column ∧
      (d.after (.deleteLine line)).currentLine = if line = d.line then d.heir else d.currentLine := by
  obtain ⟨n, rfl⟩ := Int.eq_ofNat_of_zero_le h0
  obtain ⟨as, l, bs, hls, rfl⟩ := Document.exists_around (show n < d.lines.length by omega)
  have hne : as ++ bs ≠ [] := around_ne_nil hls hmore
  obtain ⟨-, -, hcolumn⟩ := Document.after_deleteLine_around hls hne
  exact ⟨h.after_deleteLine_around hls hne, hcolumn, h.currentLine_after_deleteLine_around hls hne⟩

end CursorOnLine

/-- A line that is not there, or the only one, is not taken out. -/
theorem after_deleteLine_of_not {line : Int} (h : ¬ (line < d.lines.length ∧ d.lines.length ≠ 1)) :
    d.after (.deleteLine line) = d := by
  rw [after, Document.deleteLine, if_pos (by omega)]
  rfl

/-! ## The law -/

/-- **In any call** the cursor stays in a line. -/
theorem CursorOnLine.after (h : d.CursorOnLine) {c : Call} (hc : c.Fits d) : (d.after c).CursorOnLine := by
  by_cases hdelete : ∃ line, c = .deleteLine line
  · obtain ⟨line, rfl⟩ := hdelete
    by_cases hgone : line < d.lines.length ∧ d.lines.length ≠ 1
    · exact (h.deleteLine hc hgone.1 hgone.2).1
    · rw [after_deleteLine_of_not hgone]
      exact h
  · exact (h.settles hc fun line hline => hdelete ⟨line, hline⟩).onLine h

/-- A cursor in a line stands inside if it does not stand behind the end of the line. -/
theorem CursorOnLine.inside_iff (h : d.CursorOnLine) :
    d.CursorInside ↔ d.column ≤ d.currentLine.length :=
  ⟨fun hin => hin.column_le, fun hle => ⟨h.line_nonneg, h.line_lt, h.column_nonneg, hle⟩⟩

/-- **A call puts a cursor outside** that stood inside if, and only if, it strands it. -/
theorem CursorInside.after_iff (h : d.CursorInside) {c : Call} (hc : c.Fits d) :
    (d.after c).CursorInside ↔ ¬ c.Strands d := by
  by_cases hdelete : ∃ line, c = .deleteLine line
  · obtain ⟨line, rfl⟩ := hdelete
    by_cases hgone : line < d.lines.length ∧ d.lines.length ≠ 1
    · obtain ⟨hon, hcolumn, hcurrent⟩ := h.onLine.deleteLine hc hgone.1 hgone.2
      rw [hon.inside_iff, hcolumn, hcurrent]
      by_cases hown : line = d.line
      · rw [if_pos hown, Call.Strands, hown, ← Int.not_lt]
        exact not_congr ⟨fun hlt => ⟨rfl, hgone.2, hlt⟩, fun hs => hs.2.2⟩
      · rw [if_neg hown]
        exact iff_of_true h.column_le fun hs => hown (Call.deleteLine.inj hs.1)
    · rw [after_deleteLine_of_not hgone]
      refine iff_of_true h fun hs => hgone ⟨?_, hs.2.1⟩
      rw [Call.deleteLine.inj hs.1]
      exact h.line_lt
  · refine iff_of_true ?_ fun hs => hdelete ⟨_, hs.1⟩
    exact (h.onLine.settles hc fun line hline => hdelete ⟨line, hline⟩).inside h

/-- What a call that strands the cursor makes of it. -/
theorem Call.Strands.after (h : d.CursorInside) {c : Call} (hs : c.Strands d) :
    (d.after c).CursorOnLine ∧ (d.after c).column = d.column ∧ (d.after c).currentLine = d.heir := by
  obtain ⟨rfl, hmore, -⟩ := hs
  have hdelete := h.onLine.deleteLine h.line_nonneg h.line_lt hmore
  rwa [if_pos rfl] at hdelete

/-- **In any run** the cursor stays in a line. -/
theorem CursorOnLine.runCalls (h : d.CursorOnLine) {cs : List Call}
    (hfits : d.AllAlong (fun d c => c.Fits d) cs) : (d.runCalls cs).CursorOnLine := by
  induction cs generalizing d with
  | nil => exact h
  | cons c cs ih => exact ih (h.after hfits.1) hfits.2

/-- **In a run that does not strand it** the cursor stays inside. -/
theorem CursorInside.runCalls (h : d.CursorInside) {cs : List Call}
    (hfits : d.AllAlong (fun d c => c.Fits d) cs) (hs : d.AllAlong (fun d c => ¬ c.Strands d) cs) :
    (d.runCalls cs).CursorInside := by
  induction cs generalizing d with
  | nil => exact h
  | cons c cs ih => exact ih ((h.after_iff hfits.1).2 hs.1) hfits.2 hs.2

/-- **Only one call takes the cursor outside.**  It stands inside a document with any lines and any history.
    (1) After a call it stands inside, unless the call takes out its own line and the one in which it comes
        then ends in front of its column.
    (2) After such a call it is in that line, in its old column.
    (3) In a run of calls, with cursors inside and outside, it always stays in a line, and it stays inside
        as long as there is no such call. -/
theorem calls_keep_cursor (h : d.CursorInside) :
    (∀ c : Call, c.Fits d → ((d.after c).CursorInside ↔ ¬ c.Strands d)) ∧
    (∀ c : Call, c.Strands d → (d.after c).CursorOnLine ∧ (d.after c).column = d.column ∧
      (d.after c).currentLine = d.heir) ∧
    ∀ cs : List Call, d.AllAlong (fun d c => c.Fits d) cs →
      (d.runCalls cs).CursorOnLine ∧
        (d.AllAlong (fun d c => ¬ c.Strands d) cs → (d.runCalls cs).CursorInside) := by
  refine ⟨fun c hc => h.after_iff hc, fun c hs => hs.after h, fun cs hfits => ⟨?_, fun hs => ?_⟩⟩
  · exact h.onLine.runCalls hfits
  · exact h.runCalls hfits hs

/-- The cursor behind the last of three lines.  The line above is taken out, which is taken back, the last
    line is broken in two, and the cursor's line, an empty one now, is taken out. -/
theorem calls_keep_cursor_three_lines :
    let d := (ofText "ab\n\ncde".toList).moveTo 7
    let cs : List Call := [.deleteLine 1, .undo, .split 2 3, .insert 3 0 ['f'], .undo, .deleteLine 3]
    d.CursorInside ∧ d.AllAlong (fun d c => c.Fits d) cs ∧ d.AllAlong (fun d c => ¬ c.Strands d) cs ∧
      (d.runCalls cs).text = "ab\n\ncde".toList ∧ (d.runCalls cs).CursorInside := by
  intro d cs
  have hin : d.CursorInside := .moveTo (by decide) 7
  have hfits : d.AllAlong (fun d c => c.Fits d) cs := by decide +kernel
  have hs : d.AllAlong (fun d c => ¬ c.Strands d) cs := by decide +kernel
  exact ⟨hin, hfits, hs, by decide +kernel, ((calls_keep_cursor hin).2.2 cs hfits).2 hs⟩

/-- **A cursor behind the end of its line**: the last line is taken out from under it, and the one above is
    shorter. -/
theorem cursor_left_outside :
    let d := (ofText "a\nbcd".toList).moveTo 5
    let d' := d.after (.deleteLine 1)
    d.CursorInside ∧ (∀ l ∈ d.lines, '\n' ∉ l) ∧ Call.Fits d (.deleteLine 1) ∧
      d'.lines = [['a']] ∧ d'.line = 0 ∧ d'.column = 3 ∧ ¬ d'.CursorInside := by
  intro d d'
  have hin : d.CursorInside := .moveTo (by decide) 5
  refine ⟨hin, by decide, by decide, by decide, by decide, by decide, fun hin' => ?_⟩
  exact absurd hin'.column_le (by decide)

end Respell.Document
