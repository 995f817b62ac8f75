/-
  The cursor is never lost.

  Some keys set the line of the cursor, some the column, some both, and only a few of them look at the
  other one.  This file proves that together they never take the cursor out of the document.

  1. **The invariant** (`Document.Sound`) says that the cursor stands inside and that the document
     stands for a history of texts.  The second half is there for undo and redo: a record was made in
     another text, and it has to fit the one that is there when it is used.

  2. **Where cursors come from.**  An offset becomes a place inside any list of lines
     (`positionIn_inside`), and a column cut to its line stays in it (`CursorInside.toLine`).  The keys
     that type and delete are settled by their laws for the flat text.  Edits, undo and redo put the
     cursor inside from wherever it stands in a line, or leave everything as it is (`CursorOnLine`).

  3. **One step** (`Document.Sound.pressed`).  What a key does to a document is a call of which a
     history knows, or a name that it is saved under (`Pressed.cases`, `CursorInside.called`).  The run
     is an induction over the keys.
-/
import Respell.Document.Storage
import Respell.Proofs.History
import Respell.Proofs.Keystrokes
import Respell.Proofs.Presses

namespace Respell

open Text

namespace Document

variable {d d' : Document}

/-! ## What is left alone -/

/-- Whether two documents have the same text and the same changes, wherever their cursors stand. -/
structure SameText (d d' : Document) : Prop where
  lines : d'.lines = d.lines
  past : d'.past = d.past
  future : d'.future = d.future

/-- Whether at most the cursor of a document stands elsewhere. -/
def Moved (d d' : Document) : Prop := ∃ line column, d' = { d with line, column }

theorem moved_moveLeft (d : Document) : d.Moved d.moveLeft := by
  unfold moveLeft
  split
  · exact ⟨_, _, rfl⟩
  · split <;> exact ⟨_, _, rfl⟩

theorem moved_moveRight (d : Document) : d.Moved d.moveRight := by
  unfold moveRight
  split
  · exact ⟨_, _, rfl⟩
  · split <;> exact ⟨_, _, rfl⟩

theorem moved_moveUp (d : Document) : d.Moved d.moveUp := by
  unfold moveUp
  split <;> exact ⟨_, _, rfl⟩

theorem moved_moveDown (d : Document) : d.Moved d.moveDown := by
  unfold moveDown
  split <;> exact ⟨_, _, rfl⟩

/-- What a key can make of a document by itself: the cursor is moved, something is typed or taken out,
    a change is undone or redone. -/
inductive Handled (d : Document) : Document → Prop where
  | moved {d' : Document} : d.Moved d' → Handled d d'
  | type (t : Text) : '\n' ∉ t → Handled d (d.type t).state
  | breakLine : Handled d d.breakLine.state
  | deleteForward : Handled d d.deleteForward.state
  | deleteBackward : Handled d d.deleteBackward.state
  | undo : Handled d d.undo.state
  | redo : Handled d d.redo.state

/-- **What a key can do** to a document, in three kinds. -/
theorem Pressed.cases {rows : Int} (h : d.Pressed rows d') :
    d.Handled d' ∨ (∃ es, d' = (d.applyEdits es).state) ∨
      ∃ name, d' = { d with filename := some name, modified := false } := by
  cases h with
  | left => exact .inl (.moved d.moved_moveLeft)
  | right => exact .inl (.moved d.moved_moveRight)
  | up => exact .inl (.moved d.moved_moveUp)
  | down => exact .inl (.moved d.moved_moveDown)
  | lineStart | lineEnd | pageUp | pageDown | goTo => exact .inl (.moved ⟨_, _, rfl⟩)
  | type t ht => exact .inl (.type t ht)
  | breakLine => exact .inl .breakLine
  | deleteForward => exact .inl .deleteForward
  | deleteBackward => exact .inl .deleteBackward
  | applyEdits es => exact .inr (.inl ⟨es, rfl⟩)
  | undo => exact .inl .undo
  | redo => exact .inl .redo
  | save name => exact .inr (.inr ⟨name, rfl⟩)

/-- Whether a document is what a call leaves behind, wherever its cursor stands. -/
def Called (d d' : Document) : Prop :=
  ∃ op : Operation, (op.run d).state.SameText d' ∧ d'.modified = (op.run d).state.modified

theorem Called.of_state (op : Operation) (h : (op.run d).state = d') : d.Called d' := by
  subst h
  exact ⟨op, ⟨rfl, rfl, rfl⟩, rfl⟩

theorem called_applyEdits (d : Document) (es : List Edit) : d.Called (d.applyEdits es).state :=
  .of_state (.applyEdits es) (Attempt.state_andThen_done _ _)

theorem called_undo (d : Document) : d.Called d.undo.state :=
  .of_state .undo (Attempt.state_andThen_done _ _)

theorem called_redo (d : Document) : d.Called d.redo.state :=
  .of_state .redo (Attempt.state_andThen_done _ _)

/-- A document whose cursor has moved stands for the same history. -/
theorem SameText.simulates (h : d.SameText d') {th : TextHistory} (hs : Simulates d th)
    (hline : 0 ≤ d'.line) : Simulates d' th :=
  ⟨h.lines.trans hs.lines, h.past ▸ hs.past, h.future ▸ hs.future, hs.bounded, hline⟩

/-! ## Cursors inside -/

/-- The place of an offset is a place in one of the lines. -/
theorem positionIn_inside : ∀ {ls : List Text} (o : Nat), ls ≠ [] →
    (positionIn ls o).1 < ls.length ∧
      (positionIn ls o).2 ≤ (ls.getD (positionIn ls o).1 []).length
  | [], _, h => absurd rfl h
  | [l], o, _ => by
    rw [positionIn]
    exact ⟨Nat.zero_lt_one, Nat.min_le_right o l.length⟩
  | l :: m :: ms, o, _ => by
    rw [positionIn]
    · split
      · rename_i hle
        exact ⟨Nat.zero_lt_succ _, hle⟩
      · obtain ⟨hline, hcolumn⟩ :=
          positionIn_inside (o - (l.length + 1)) (List.cons_ne_nil m ms)
        exact ⟨Nat.succ_lt_succ hline, hcolumn⟩
    · exact List.cons_ne_nil m ms

namespace CursorInside

theorem congr (h : d.CursorInside) (hlines : d'.lines = d.lines) (hline : d'.line = d.line)
    (hcolumn : d'.column = d.column) : d'.CursorInside := by
  have hcurrent : d'.currentLine = d.currentLine := by
    rw [Document.currentLine, Document.currentLine, hlines, hline]
  constructor
  · exact hline ▸ h.line_nonneg
  · exact hlines ▸ hline ▸ h.line_lt
  · exact hcolumn ▸ h.column_nonneg
  · rw [hcurrent, hcolumn]
    exact h.column_le

theorem lines_ne_nil (h : d.CursorInside) : d.lines ≠ [] := by
  have hlow := h.line_nonneg
  have hlt := h.line_lt
  exact List.ne_nil_of_length_pos (by omega)

theorem moveTo (hne : d.lines ≠ []) (o : Int) : (d.moveTo o).CursorInside := by
  obtain ⟨hline, hcolumn⟩ := positionIn_inside o.toNat hne
  have hcurrent : (d.moveTo o).currentLine = d.lines.getD (d.positionOf o).1 [] := by
    show lineOrEmpty d.lines (d.positionOf o).1 = _
    rw [lineOrEmpty, if_neg (by omega), Int.toNat_natCast]
  constructor
  · show (0 : Int) ≤ (d.positionOf o).1
    omega
  · show ((d.positionOf o).1 : Int) < d.lines.length
    exact Int.ofNat_lt.2 hline
  · show (0 : Int) ≤ (d.positionOf o).2
    omega
  · rw [hcurrent]
    exact Int.ofNat_le.2 hcolumn

/-- A cursor that goes to a line that is there keeps its column as far as that line goes. -/
theorem toLine (h : d.CursorInside) {line : Int} (h0 : 0 ≤ line) (hlt : line < d.lines.length) :
    (d.toLine line).CursorInside := by
  have hcolumn := h.column_nonneg
  constructor
  · exact h0
  · exact hlt
  · show 0 ≤ min d.column _
    omega
  · exact Int.min_le_right _ _

theorem moveToLineStart (h : d.CursorInside) : d.moveToLineStart.CursorInside := by
  refine ⟨h.line_nonneg, h.line_lt, Int.le_refl 0, ?_⟩
  show (0 : Int) ≤ (d.currentLine.length : Nat)
  omega

theorem moveToLineEnd (h : d.CursorInside) : d.moveToLineEnd.CursorInside := by
  refine ⟨h.line_nonneg, h.line_lt, ?_, Int.le_refl _⟩
  show (0 : Int) ≤ (d.currentLine.length : Nat)
  omega

theorem moveUp (h : d.CursorInside) : d.moveUp.CursorInside := by
  have h0 := h.line_nonneg
  have hlt := h.line_lt
  unfold Document.moveUp
  split
  · exact h
  · exact h.toLine (by omega) (by omega)

theorem moveDown (h : d.CursorInside) : d.moveDown.CursorInside := by
  have h0 := h.line_nonneg
  have hlt := h.line_lt
  unfold Document.moveDown Document.lastLine
  split
  · exact h
  · exact h.toLine (by omega) (by omega)

/-- Pages of no row or more keep the cursor inside; pages of less would not. -/
theorem pageUp (h : d.CursorInside) {rows : Int} (hrows : 0 ≤ rows) :
    (d.pageUp rows).CursorInside := by
  have h0 := h.line_nonneg
  have hlt := h.line_lt
  exact h.toLine (by omega) (by omega)

theorem pageDown (h : d.CursorInside) {rows : Int} (hrows : 0 ≤ rows) :
    (d.pageDown rows).CursorInside := by
  have h0 := h.line_nonneg
  have hlt := h.line_lt
  unfold Document.pageDown Document.lastLine
  exact h.toLine (by omega) (by omega)

theorem type (h : d.CursorInside) (t : Text) : (d.type t).state.CursorInside := by
  obtain ⟨as, left, right, bs, hf⟩ := h.focused
  obtain ⟨d', hrun, hf'⟩ := hf.type t
  rw [hrun]
  exact hf'.cursorInside

/-- The keys that have a law for the flat text. -/
theorem stroke (h : d.CursorInside) (s : Stroke) : (s.run d).state.CursorInside := by
  obtain ⟨o, _, d', hrun, hdoes⟩ := Stroke.exists_does h s
  rw [hrun]
  exact hdoes.inside

end CursorInside

/-! ## Cursors in a line -/

/-- Whether the cursor of a document stands in one of its lines, however far to the right. -/
structure CursorOnLine (d : Document) : Prop where
  line_nonneg : 0 ≤ d.line
  line_lt : d.line < d.lines.length
  column_nonneg : 0 ≤ d.column

theorem CursorInside.onLine (h : d.CursorInside) : d.CursorOnLine :=
  ⟨h.line_nonneg, h.line_lt, h.column_nonneg⟩

/-- Whether a document has its cursor inside, or the lines and the cursor of another one. -/
def Settles (d d' : Document) : Prop :=
  d'.CursorInside ∨ d'.lines = d.lines ∧ d'.line = d.line ∧ d'.column = d.column

theorem Settles.refl (d : Document) : d.Settles d := .inr ⟨rfl, rfl, rfl⟩

theorem Settles.inside (hs : d.Settles d') (h : d.CursorInside) : d'.CursorInside := by
  rcases hs with hin | ⟨hlines, hline, hcolumn⟩
  · exact hin
  · exact h.congr hlines hline hcolumn

theorem Settles.onLine (hs : d.Settles d') (h : d.CursorOnLine) : d'.CursorOnLine := by
  rcases hs with hin | ⟨hlines, hline, hcolumn⟩
  · exact hin.onLine
  · exact ⟨hline ▸ h.line_nonneg, hlines ▸ hline ▸ h.line_lt, hcolumn ▸ h.column_nonneg⟩

namespace CursorOnLine

theorem applyEdits (h : d.CursorOnLine) (es : List Edit) : d.Settles (d.applyEdits es).state := by
  cases es with
  | nil => exact .refl d
  | cons e es =>
    cases hnew : Edit.applyAll d.text (e :: es) with
    | error x =>
      simp only [Document.applyEdits, hnew]
      exact .refl d
    | ok t =>
      have hin : ({ d with lines := Text.lines t }.moveTo (min d.cursor t.length)).CursorInside :=
        .moveTo (split_ne_nil '\n' t) _
      rw [applyEdits_eq_done h.line_nonneg (List.cons_ne_nil e es) hnew]
      exact .inl (hin.congr rfl rfl rfl)

/-- A change made again, whatever it is, puts the cursor inside or does nothing. -/
theorem repeatChange (h : d.CursorOnLine) (c : Change) :
    ∃ d', d.repeatChange c = .done d' () ∧ d.Settles d' := by
  cases c with
  | text cursor old new =>
    obtain ⟨d', hset, hlines, -⟩ := setText_eq_done h.line_nonneg new
    refine ⟨d'.moveTo cursor, ?_, .inl (.moveTo (hlines ▸ split_ne_nil '\n' new) cursor)⟩
    rw [Document.repeatChange, hset]
    rfl
  | line n old new =>
    refine ⟨_, rfl, ?_⟩
    have hcolumn := h.column_nonneg
    unfold putLine
    split
    · rename_i hn
      -- the line is put where the cursor goes, and the column is cut to it
      have hlength : (d.lines.set n.toNat new).length = d.lines.length := List.length_set
      have hnew : lineOrEmpty (d.lines.set n.toNat new) n = new := by
        rw [lineOrEmpty, if_neg (by omega), List.getD_eq_getElem?_getD,
          List.getElem?_set_self (by omega), Option.getD_some]
      refine .inl ⟨hn.1, ?_, ?_, ?_⟩
      · show n < ((d.lines.set n.toNat new).length : Nat)
        omega
      · show 0 ≤ min d.column _
        omega
      · rw [Document.currentLine, hnew]
        exact Int.min_le_right _ _
    · exact .refl d

theorem undo (h : d.CursorOnLine) : d.Settles d.undo.state := by
  unfold Document.undo
  split
  · exact .refl d
  · rename_i c past _
    obtain ⟨d', hrevert, hs⟩ :=
      repeatChange (d := { d with past }) ⟨h.line_nonneg, h.line_lt, h.column_nonneg⟩
        (d.completed c).reversed
    rw [← revert_eq_repeatChange] at hrevert
    dsimp only
    rw [hrevert]
    exact hs.imp (fun hin => hin.congr rfl rfl rfl) id

theorem redo (h : d.CursorOnLine) : d.Settles d.redo.state := by
  unfold Document.redo
  split
  · exact .refl d
  · rename_i c future _
    obtain ⟨d', hrepeat, hs⟩ :=
      repeatChange (d := { d with future, past := pushed c d.past })
        ⟨h.line_nonneg, h.line_lt, h.column_nonneg⟩ c
    rw [hrepeat]
    exact hs.imp (fun hin => hin.congr rfl rfl rfl) id

end CursorOnLine

namespace CursorInside

/-- Whatever a key does to a document whose cursor stands inside, the cursor stays inside. -/
theorem pressed (h : d.CursorInside) {rows : Int} (hrows : 0 ≤ rows)
    (hd : d.Pressed rows d') : d'.CursorInside := by
  have hne := h.lines_ne_nil
  cases hd with
  | left => exact h.stroke .left
  | right => exact h.stroke .right
  | up => exact h.moveUp
  | down => exact h.moveDown
  | lineStart => exact h.moveToLineStart
  | lineEnd => exact h.moveToLineEnd
  | pageUp => exact h.pageUp hrows
  | pageDown => exact h.pageDown hrows
  | goTo l => exact .moveTo hne l.start
  | type t ht => exact h.type t
  | breakLine => exact h.stroke .enter
  | deleteForward => exact h.stroke .delete
  | deleteBackward => exact h.stroke .backspace
  | applyEdits es => exact (h.onLine.applyEdits es).inside h
  | undo => exact h.onLine.undo.inside h
  | redo => exact h.onLine.redo.inside h
  | save name => exact h.congr rfl rfl rfl

/-- **Everything that keys do by themselves is a call** if the cursor stands inside. -/
theorem called (h : d.CursorInside) (hd : d.Handled d') : d.Called d' := by
  obtain ⟨n, hn⟩ := Int.eq_ofNat_of_zero_le h.line_nonneg
  cases hd with
  | moved hmoved =>
    -- wherever to, it is a move
    obtain ⟨line, column, rfl⟩ := hmoved
    exact ⟨.moveTo 0, ⟨rfl, rfl, rfl⟩, rfl⟩
  | type t ht =>
    refine .of_state (.insert n d.column ⟨t, ht⟩) ?_
    rw [Operation.run, Attempt.state_andThen_done, Document.type, hn]
  | breakLine =>
    refine .of_state (.split n d.column) ?_
    rw [Operation.run, Attempt.state_andThen_done, Document.breakLine, hn]
  | deleteForward =>
    unfold Document.deleteForward
    split
    · refine .of_state (.delete n d.column (d.column + 1)) ?_
      rw [Operation.run, Attempt.state_andThen_done, hn]
    · split
      · -- the join puts the column where the lines meet, and the key puts it back
        have hjoin : ((Operation.join (n + 1)).run d).state = d.join (d.line + 1) := by
          rw [hn]
          rfl
        refine ⟨.join (n + 1), ?_, ?_⟩
        · rw [hjoin]
          exact ⟨rfl, rfl, rfl⟩
        · rw [hjoin]
          rfl
      · exact ⟨.moveTo 0, ⟨rfl, rfl, rfl⟩, rfl⟩
  | deleteBackward =>
    unfold Document.deleteBackward
    split
    · refine .of_state (.delete n (d.column - 1) d.column) ?_
      rw [Operation.run, Attempt.state_andThen_done, hn]
    · split
      · refine .of_state (.join n) ?_
        rw [Operation.run, hn]
        rfl
      · exact ⟨.moveTo 0, ⟨rfl, rfl, rfl⟩, rfl⟩
  | undo => exact d.called_undo
  | redo => exact d.called_redo

end CursorInside

/-! ## The invariant -/

/-- Whether the cursor of a document stands inside it and its records fit its text. -/
structure Sound (d : Document) : Prop where
  inside : d.CursorInside
  recorded : ∃ h, Simulates d h

namespace Sound

/-- A sound document has lines, and no newline in them. -/
theorem lines (h : d.Sound) : d.lines ≠ [] ∧ ∀ l ∈ d.lines, '\n' ∉ l := by
  obtain ⟨th, hs⟩ := h.recorded
  rw [hs.lines]
  exact ⟨split_ne_nil '\n' th.present, sep_notMem_of_mem_split '\n' th.present⟩

/-- A text that has just come, with nothing to undo. -/
theorem start {t : Text} (hlines : d.lines = Text.lines t) (hline : d.line = 0)
    (hcolumn : d.column = 0) (hpast : d.past = []) (hfuture : d.future = []) : d.Sound := by
  have hpos : 0 < d.lines.length := hlines ▸ List.length_pos_iff.2 (split_ne_nil '\n' t)
  constructor
  · refine ⟨by omega, by omega, by omega, ?_⟩
    rw [hcolumn]
    omega
  · exact ⟨.start t, hlines, hpast ▸ .nil t, hfuture ▸ .nil t, by simp [TextHistory.start], by omega⟩

/-- A step that only moves the cursor, or writes the document to a file. -/
theorem congr (h : d.Sound) (hsame : d.SameText d') (hin : d'.CursorInside) : d'.Sound := by
  obtain ⟨th, hs⟩ := h.recorded
  exact ⟨hin, th, hsame.simulates hs hin.line_nonneg⟩

/-- A step that is a call of which the history knows. -/
theorem called (h : d.Sound) (hd : d.Called d') (hin : d'.CursorInside) : d'.Sound := by
  obtain ⟨th, hs⟩ := h.recorded
  obtain ⟨op, hsame, -⟩ := hd
  exact ⟨hin, _, hsame.simulates (Operation.keeps hs op).simulates hin.line_nonneg⟩

/-- **One step.**  Whatever a key does to a document, its cursor stays inside. -/
theorem pressed (h : d.Sound) {rows : Int} (hrows : 0 ≤ rows) (hd : d.Pressed rows d') : d'.Sound := by
  have hin := h.inside.pressed hrows hd
  rcases hd.cases with hhandled | ⟨es, rfl⟩ | ⟨name, rfl⟩
  · exact h.called (h.inside.called hhandled) hin
  · exact h.called (d.called_applyEdits es) hin
  · exact h.congr ⟨rfl, rfl, rfl⟩ hin

end Sound

/-! ## Documents as they are opened -/

/-- Whether a document has only just been opened: as a text, under a name, or from a file, whether the
    file could be read or not. -/
inductive Opened : Document → Prop where
  | fresh (t : Text) : Opened (ofText t)
  | named (t : Text) (name : String) : Opened { ofText t with filename := some name }
  | loaded {d : Document} (fs : Files) (name : String) : Opened d → Opened (d.load fs name).state

theorem Opened.sound (h : d.Opened) : d.Sound := by
  induction h with
  | fresh t => exact .start rfl rfl rfl rfl rfl
  | named t name => exact .start rfl rfl rfl rfl rfl
  | @loaded d fs name _ ih =>
    unfold load
    dsimp only
    split
    · -- the old lines stay, without their history
      obtain ⟨th, hs⟩ := ih.recorded
      exact .start hs.lines rfl rfl rfl rfl
    · exact .start rfl rfl rfl rfl rfl

end Document

/-! ## Editors -/

namespace Editor

variable {e e' : Editor}

/-- Whether all documents of an editor are sound and its pages have a row or more. -/
structure Sound (e : Editor) : Prop where
  documents : ∀ d ∈ e.documents, d.Sound
  rows : 0 ≤ e.pageHeight

/-- **A run.**  Keys in any order keep every document sound, whether they fail or not. -/
theorem Sound.pressAll (h : e.Sound) (keys : List (Int × Int)) : (e.pressAll keys).Sound := by
  constructor
  · exact forall_documents_pressAll keys (fun _ _ hd hpressed => hd.pressed h.rows hpressed) h.documents
  · rw [pageHeight_pressAll]
    exact h.rows

theorem length_documents_pressAll (e : Editor) (keys : List (Int × Int)) :
    (e.pressAll keys).documents.length = e.documents.length := by
  induction keys generalizing e with
  | nil => rfl
  | cons k keys ih => exact (ih _).trans (touches_press e k.1 k.2).length_documents

/-- An editor starts without documents, on a screen that is not too small. -/
theorem start_eq_ok {session : Session} {world : World} {height width : Int}
    (h : start session world height width = .ok e) :
    e.documents = [] ∧ e.height = height ∧ leastHeight ≤ height ∧ leastWidth ≤ width := by
  unfold start at h
  split at h
  · cases h
  · rename_i hlarge
    simp only [isTooSmall, Bool.or_eq_true, decide_eq_true_eq, not_or, Int.not_lt] at hlarge
    obtain rfl := Except.ok.inj h
    exact ⟨rfl, rfl, hlarge⟩

theorem Sound.openAll {ds : List Document} (hnone : e.documents = []) (hrows : leastHeight ≤ e.height)
    (created : Option String) (hds : ∀ d ∈ ds, d.Opened) : (e.openAll created ds).Sound := by
  constructor
  · rw [openAll_documents, hnone, List.nil_append]
    exact fun d hd => (hds d hd).sound
  · rw [pageHeight, openAll_height, codeHeight, panelHeight]
    unfold leastHeight at hrows
    omega

/-- **The cursor is never lost.**  Documents are opened in an editor on a screen that is large enough,
    perhaps with a message about a new one, and then keys are pressed, each with the one that would
    follow it if it were an escape.  However many there are, and whether they fail or not, all documents
    are still there, every one of them has lines without a newline in them, and its cursor stands in one
    of these lines, at a character or at the end. -/
theorem cursor_never_lost {session : Session} {world : World} {height width : Int}
    (hstart : start session world height width = .ok e) {ds : List Document}
    (hds : ∀ d ∈ ds, d.Opened) (created : Option String) (keys : List (Int × Int)) :
    ((e.openAll created ds).pressAll keys).documents.length = ds.length ∧
      ∀ d ∈ ((e.openAll created ds).pressAll keys).documents,
        d.lines ≠ [] ∧ (∀ l ∈ d.lines, '\n' ∉ l) ∧ d.CursorInside := by
  obtain ⟨hnone, hheight, hrows, -⟩ := start_eq_ok hstart
  have hsound : (e.openAll created ds).Sound := .openAll hnone (hheight ▸ hrows) created hds
  constructor
  · rw [length_documents_pressAll, openAll_documents, hnone, List.nil_append]
  · intro d hd
    have hd := (hsound.pressAll keys).documents d hd
    exact ⟨hd.lines.1, hd.lines.2, hd.inside⟩

/-- Two documents on the smallest screen.  In the second an empty line is joined to the next one, broken
    again and mended, and all literals are respelled in the next format, which is taken back and made
    again; in the first a page is turned and a literal converted through the dialog. -/
theorem cursor_never_lost_two_documents :
    let e : Editor := { onDocument (.ofText []) with documents := [] }
    let ds := [Document.ofText "7\n8".toList, Document.ofText "10\n\nabc 9".toList]
    let keys := [(258, 0), (330, 0), (10, 0), (2, 0), (20, 0), (2, 0), (25, 0), (27, 49), (338, 0),
      (18, 0), (98, 0), (10, 0)]
    start e.session e.world 16 40 = .ok e ∧ (∀ d ∈ ds, d.Opened) ∧
      ((e.openAll none ds).pressAll keys).documents.map (fun d => (d.text, d.line, d.column)) =
        [("7\n0b1000".toList, 1, 0), ("0b1010\nabc 0b1001".toList, 0, 3)] ∧
      ∀ d ∈ ((e.openAll none ds).pressAll keys).documents, d.CursorInside := by
  intro e ds keys
  have hstart : start e.session e.world 16 40 = .ok e := rfl
  have hopened : ∀ d ∈ ds, d.Opened := by
    intro d hd
    rcases List.mem_cons.1 hd with rfl | hd
    · exact .fresh _
    · obtain rfl := List.mem_singleton.1 hd
      exact .fresh _
  refine ⟨hstart, hopened, by decide +kernel, fun d hd => ?_⟩
  exact ((cursor_never_lost hstart hopened none keys).2 d hd).2.2

end Editor

end Respell
