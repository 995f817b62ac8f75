/-
  What the window of the code shows.

  The code is drawn row by row, each line in coloured pieces with its annotation behind them, and every
  piece is cut at the right edge for itself.  This file says what is seen then: the part of the document
  that fits in the window, with nothing missing and nothing twice.

  1. **Cutting** (`laid_clips`).  Texts that stand one behind another, each cut at the right edge for
     itself, are the whole text cut once.  Behind a text that was cut nothing is drawn, so there is no
     gap, and it does not matter where the pieces begin and end.

  2. **One row** (`textsIn_drawRow`).  The pieces of a line spell the line, whatever the lexer, and its
     annotation begins where they end.

  3. **All rows** (`textsIn_rows`).  Each row belongs to one line at most, and the lines come from half
     a window above the cursor, so that the line of the cursor is among them (`exists_row_of_line`).

  4. **The cursor** is one character on top of a text (`mem_overlay`), and it is the one that stands
     there anyway: every remark begins with a space, as the end of a line does (`cursorChar_eq`).

  5. **The window** (`CodeFits`).  The window of the code has the size that the screen leaves for it,
     whenever the screen is large enough.  A screen that becomes too small keeps its windows, so this is
     said of every screen, and holds through every turn.
-/
import Respell.Proofs.Frames
import Respell.Proofs.Returns
import Respell.Proofs.Segments

namespace Respell

open Document (lineOrEmpty)

/-! ## Drawings that nothing breaks off -/

namespace Drawing

variable {a b : Drawing} {ds : List Drawing}

theorem draws_followedBy (h : (a.followedBy b).failure = none) :
    a.failure = none ∧ b.failure = none ∧ (a.followedBy b).draws = a.draws ++ b.draws := by
  unfold followedBy at h ⊢
  cases ha : a.failure with
  | none =>
    rw [ha] at h
    exact ⟨rfl, h, rfl⟩
  | some x =>
    rw [ha] at h
    exact nomatch ha.symm.trans h

/-- What is drawn if nothing fails is what all the drawings draw. -/
theorem draws_all (h : (all ds).failure = none) :
    (∀ d ∈ ds, d.failure = none) ∧ (all ds).draws = ds.flatMap (·.draws) := by
  induction ds with
  | nil => exact ⟨nofun, rfl⟩
  | cons d ds ih =>
    obtain ⟨hd, hrest, hdraws⟩ := draws_followedBy h
    obtain ⟨hds, hall⟩ := ih hrest
    refine ⟨List.forall_mem_cons.2 ⟨hd, hds⟩, ?_⟩
    rw [all, hdraws, hall, List.flatMap_cons]

theorem failure_eq_none_iff : (∃ u, a.result = .ok u) ↔ a.failure = none := by
  unfold result
  cases a.failure with
  | none => exact iff_of_true ⟨(), rfl⟩ rfl
  | some x => exact iff_of_false (fun ⟨_, h⟩ => nomatch h) nofun

end Drawing

/-! ## Texts in a row -/

/-- The texts that are drawn in a row, with the columns where they begin. -/
def textsIn (row : Int) (draws : List Draw) : List (Int × Text) :=
  draws.filterMap fun x =>
    match x.2 with
    | .text r column t _ => if r = row then some (column, t) else none
    | _ => none

/-- Whether each text begins where the one in front of it ends, and the first one at a column. -/
def Seamless : Int → List (Int × Text) → Prop
  | _, [] => True
  | column, x :: xs => x.1 = column ∧ Seamless (column + x.2.length) xs

/-- Whether texts in a row spell as much of a text as a width has room for: without gaps, with nothing
    drawn twice, and with nothing past the edge. -/
structure Spells (width : Int) (xs : List (Int × Text)) (t : Text) : Prop where
  seamless : Seamless 0 xs
  spelling : xs.flatMap (·.2) = t.take width.toNat
  inside : ∀ x ∈ xs, x.1 + x.2.length ≤ width

/-- Texts that are put one behind another from a column on, each cut at the right edge for itself. -/
def laid (width column : Int) : List Text → List (Int × Text)
  | [] => []
  | t :: ts =>
    (if width ≤ column then [] else [(column, t.take (width - column).toNat)]) ++
      laid width (column + t.length) ts

variable {w : Window} {width column row r : Int} {ts us : List Text}

theorem textsIn_append (draws draws' : List Draw) :
    textsIn row (draws ++ draws') = textsIn row draws ++ textsIn row draws' :=
  List.filterMap_append

theorem textsIn_flatMap {α : Type} (xs : List α) (f : α → List Draw) :
    textsIn row (xs.flatMap f) = xs.flatMap fun x => textsIn row (f x) := by
  induction xs with
  | nil => rfl
  | cons x xs ih => rw [List.flatMap_cons, textsIn_append, ih, List.flatMap_cons]

theorem laid_append : laid width column (ts ++ us) =
    laid width column ts ++ laid width (column + ts.flatten.length) us := by
  induction ts generalizing column with
  | nil =>
    show laid width column us = laid width (column + (0 : Nat)) us
    rw [Int.natCast_zero, Int.add_zero]
  | cons t ts ih =>
    have hcolumn : column + (t :: ts).flatten.length = column + t.length + ts.flatten.length := by
      rw [List.flatten_cons, List.length_append]
      omega
    rw [List.cons_append, laid, ih, laid, hcolumn, List.append_assoc]

/-- Nothing is seen behind the edge. -/
theorem laid_of_le (h : width ≤ column) : laid width column ts = [] := by
  induction ts generalizing column with
  | nil => rfl
  | cons t ts ih =>
    rw [laid, if_pos h, ih (by omega)]
    rfl

/-- **Cutting each text is cutting all of them once.** -/
theorem laid_clips (width column : Int) (ts : List Text) : Seamless column (laid width column ts) ∧
    (laid width column ts).flatMap (·.2) = ts.flatten.take (width - column).toNat ∧
    ∀ x ∈ laid width column ts, x.1 + x.2.length ≤ width := by
  induction ts generalizing column with
  | nil =>
    refine ⟨trivial, ?_, nofun⟩
    rw [List.flatten_nil, List.take_nil]
    rfl
  | cons t ts ih =>
    obtain ⟨hseamless, hspelling, hinside⟩ := ih (column + t.length)
    rcases Int.lt_or_le column width with hlt | hle
    · rw [laid, if_neg (by omega)]
      refine ⟨⟨rfl, ?_⟩, ?_, ?_⟩
      · show Seamless (column + (t.take (width - column).toNat).length) (laid width _ ts)
        rcases Int.lt_or_le (column + t.length) width with hfit | hcut
        · rw [List.take_of_length_le (by omega)]
          exact hseamless
        · -- the text reaches the edge, and nothing stands behind it
          rw [laid_of_le hcut]
          trivial
      · have hrest : (width - column).toNat - t.length = (width - (column + t.length)).toNat := by
          omega
        rw [List.singleton_append, List.flatMap_cons, hspelling, List.flatten_cons, List.take_append,
          hrest]
      · intro x hx
        rcases List.mem_append.1 hx with hx | hx
        · obtain rfl := List.mem_singleton.1 hx
          show column + (t.take (width - column).toNat).length ≤ width
          rw [List.length_take]
          omega
        · exact hinside x hx
    · have hnone : (width - column).toNat = 0 := by omega
      rw [laid_of_le hle, hnone, List.take_zero]
      exact ⟨trivial, rfl, nofun⟩

theorem spells_laid (width : Int) (ts : List Text) : Spells width (laid width 0 ts) ts.flatten := by
  obtain ⟨hseamless, hspelling, hinside⟩ := laid_clips width 0 ts
  rw [Int.sub_zero] at hspelling
  exact ⟨hseamless, hspelling, hinside⟩

theorem textsIn_put (hrow : row < w.height) (column : Int) (t : Text) (a : Attribute) :
    textsIn row (w.put row column t a) = laid w.width column [t] := by
  rw [Window.put, laid]
  rcases Int.lt_or_le column w.width with hlt | hle
  · rw [if_neg (by omega), if_neg (by omega)]
    simp [textsIn, laid]
  · rw [if_pos (.inr hle), if_pos hle]
    rfl

theorem textsIn_put_of_ne (h : row ≠ r) (column : Int) (t : Text) (a : Attribute) :
    textsIn r (w.put row column t a) = [] := by
  unfold Window.put
  split
  · rfl
  · simp [textsIn, h]

/-! ## Remarks -/

/-- Each remark begins with a space. -/
theorem View.head?_of_remark {v : Int} {t : Text} (h : View.remark v = .ok t) :
    t.head? = some ' ' := by
  obtain ⟨c, -, rfl⟩ := exists_of_map_eq_ok h
  rfl

/-- So the remarks of a text, put together, begin with a space if there are any. -/
theorem head?_flatten_of_remarksIn {t : Text} {rs : List Text} (h : remarksIn t = .ok rs) :
    rs.flatten = [] ∨ rs.flatten.head? = some ' ' := by
  obtain ⟨ls, -, hremarks⟩ := remarksIn_eq_ok_iff.1 h
  cases rs with
  | nil => exact .inl rfl
  | cons r rs =>
    cases ls with
    | nil => cases hremarks
    | cons l ls =>
      have hr : View.remark l.value = .ok r := (List.cons.inj (eq_map_ok_of_allOf hremarks)).1
      right
      rw [List.flatten_cons, List.head?_append, View.head?_of_remark hr]
      rfl

namespace Editor

variable {e e' : Editor} {d : Document} {lexer : Highlight.Lexer} {table : Table Int Text}
  {bold : Bool} {pieces : List (Text × Nat)}

/-! ## One row -/

theorem textsIn_drawPieces (hrow : row < w.height) (column : Int) (bold : Bool)
    (pieces : List (Text × Nat)) :
    textsIn row (drawPieces w row column bold pieces) =
      laid w.width column (pieces.map (·.1)) := by
  induction pieces generalizing column with
  | nil => rfl
  | cons p pieces ih =>
    have hlaid : laid w.width column ((p :: pieces).map (·.1)) =
        laid w.width column [p.1] ++ laid w.width (column + p.1.length) (pieces.map (·.1)) := by
      rw [List.map_cons, laid, laid, laid, List.append_nil]
    rw [drawPieces, textsIn_append, textsIn_put hrow, ih, hlaid]

theorem textsIn_drawPieces_of_ne (h : row ≠ r) (column : Int) :
    textsIn r (drawPieces w row column bold pieces) = [] := by
  induction pieces generalizing column with
  | nil => rfl
  | cons p pieces ih => rw [drawPieces, textsIn_append, textsIn_put_of_ne h, ih, List.append_nil]

/-- What is drawn of the cursor in a row. -/
def overlay (e : Editor) (d : Document) (i : Nat × Int) : List Draw :=
  if i.2 = d.line then
    (drawCursor e.windows.code i.1 (lineOrEmpty d.lines i.2) d.column).draws
  else []

/-- What is drawn of a row that can be drawn: the pieces of its line, its annotation, and the cursor. -/
theorem draws_drawRow {i : Nat × Int} (h : (e.drawRow lexer d table i).failure = none) :
    ∃ pieces, Highlight.colours (lexer (lineOrEmpty d.lines i.2)) (lineOrEmpty d.lines i.2) =
        .ok pieces ∧
      (e.drawRow lexer d table i).draws =
        drawPieces e.windows.code i.1 0 (i.2 = d.line) pieces ++
          (( drawAnnotation e.windows.code i.1 (lineOrEmpty d.lines i.2) (table.get? i.2)).draws ++
            e.overlay d i) := by
  unfold drawRow at h ⊢
  dsimp only at h ⊢
  cases hpieces : Highlight.colours (lexer (lineOrEmpty d.lines i.2)) (lineOrEmpty d.lines i.2) with
  | error x =>
    rw [hpieces] at h
    cases h
  | ok pieces =>
    rw [hpieces] at h
    obtain ⟨-, hdraws⟩ := Drawing.draws_all h
    have hoverlay : (if i.2 = d.line
        then drawCursor e.windows.code i.1 (lineOrEmpty d.lines i.2) d.column
        else Drawing.ofDraws []).draws = e.overlay d i := by
      unfold overlay
      split <;> rfl
    refine ⟨pieces, rfl, hdraws.trans ?_⟩
    rw [List.flatMap_cons, List.flatMap_cons, List.flatMap_singleton, hoverlay]
    rfl

/-- The cursor is one character, the one of the line where it stands. -/
theorem mem_overlay {i : Nat × Int} {x : Draw} (hx : x ∈ e.overlay d i) :
    i.2 = d.line ∧ ∃ c, cursorChar (lineOrEmpty d.lines i.2) d.column = .ok c ∧
      x = (e.windows.code, .char i.1 d.column c cursorAttribute) := by
  unfold overlay at hx
  split at hx
  · rename_i hline
    unfold drawCursor at hx
    cases hc : cursorChar (lineOrEmpty d.lines i.2) d.column with
    | error y =>
      rw [hc] at hx
      cases hx
    | ok c =>
      rw [hc] at hx
      refine ⟨hline, c, rfl, ?_⟩
      change x ∈ e.windows.code.putChar i.1 d.column c cursorAttribute at hx
      unfold Window.putChar at hx
      split at hx
      · exact List.mem_singleton.1 hx
      · cases hx
  · cases hx

theorem textsIn_overlay (i : Nat × Int) : textsIn r (e.overlay d i) = [] := by
  refine List.filterMap_eq_nil_iff.2 fun x hx => ?_
  obtain ⟨-, c, -, rfl⟩ := mem_overlay hx
  rfl

/-- **The texts of a row** are those of its line and of its annotation, put one behind another. -/
theorem textsIn_drawRow {i : Nat × Int} (h : (e.drawRow lexer d table i).failure = none)
    (hrow : (i.1 : Int) < e.windows.code.height) :
    ∃ ts : List Text, ts.flatten = lineOrEmpty d.lines i.2 ++ (table.get? i.2).getD [] ∧
      textsIn i.1 (e.drawRow lexer d table i).draws = laid e.windows.code.width 0 ts := by
  obtain ⟨pieces, hpieces, hdraws⟩ := draws_drawRow h
  have hspell : (pieces.map (·.1)).flatten = lineOrEmpty d.lines i.2 := by
    rw [← List.flatMap_def]
    exact Highlight.flatMap_colours hpieces
  refine ⟨pieces.map (·.1) ++ (table.get? i.2).toList, ?_, ?_⟩
  · rw [List.flatten_append, hspell]
    cases table.get? i.2 with
    | none => rfl
    | some t => exact congrArg _ (List.append_nil t)
  · rw [hdraws, textsIn_append, textsIn_append, textsIn_drawPieces hrow, textsIn_overlay,
      List.append_nil, laid_append, hspell, Int.zero_add]
    cases table.get? i.2 with
    | none => rfl
    | some t => exact congrArg _ (textsIn_put hrow _ t remarkAttribute)

/-- A row draws in no other one. -/
theorem textsIn_drawRow_of_ne {i : Nat × Int} (h : (e.drawRow lexer d table i).failure = none)
    (hr : (i.1 : Int) ≠ r) : textsIn r (e.drawRow lexer d table i).draws = [] := by
  obtain ⟨pieces, -, hdraws⟩ := draws_drawRow h
  rw [hdraws, textsIn_append, textsIn_append, textsIn_drawPieces_of_ne hr, textsIn_overlay,
    List.append_nil, List.nil_append]
  cases table.get? i.2 with
  | none => rfl
  | some t => exact textsIn_put_of_ne hr _ t remarkAttribute

theorem mem_put {x : Draw} (hx : x ∈ w.put row column t a) : ∃ u, x = (w, .text row column u a) := by
  unfold Window.put at hx
  split at hx
  · cases hx
  · exact ⟨_, List.mem_singleton.1 hx⟩

theorem mem_drawPieces {x : Draw} (hx : x ∈ drawPieces w row column bold pieces) :
    ∃ column u a, x = (w, .text row column u a) := by
  induction pieces generalizing column with
  | nil => cases hx
  | cons p pieces ih =>
    rcases List.mem_append.1 hx with hx | hx
    · obtain ⟨u, rfl⟩ := mem_put hx
      exact ⟨_, u, _, rfl⟩
    · exact ih hx

/-- All that is drawn in a row is a text or the cursor, in the window of the code. -/
theorem mem_drawRow {i : Nat × Int} (h : (e.drawRow lexer d table i).failure = none) {x : Draw}
    (hx : x ∈ (e.drawRow lexer d table i).draws) :
    (∃ column u a, x = (e.windows.code, .text i.1 column u a)) ∨ x ∈ e.overlay d i := by
  obtain ⟨pieces, -, hdraws⟩ := draws_drawRow h
  rw [hdraws] at hx
  rcases List.mem_append.1 hx with hx | hx
  · exact .inl (mem_drawPieces hx)
  · rcases List.mem_append.1 hx with hx | hx
    · left
      cases hentry : table.get? i.2 with
      | none =>
        rw [hentry] at hx
        cases hx
      | some t =>
        rw [hentry] at hx
        obtain ⟨u, rfl⟩ := mem_put hx
        exact ⟨_, u, _, rfl⟩
    · exact .inr hx

/-! ## All rows -/

theorem mem_rows {i : Nat × Int} : i ∈ e.rows d ↔
    (i.1 : Int) < codeHeight e.height ∧ i.2 = e.firstLine d + i.1 ∧ i.2 < d.lines.length := by
  rw [rows, List.mem_filter, List.mem_map, decide_eq_true_iff]
  constructor
  · rintro ⟨⟨n, hn, rfl⟩, hlt⟩
    have hrange := List.mem_range.1 hn
    exact ⟨by show (n : Int) < _; omega, rfl, hlt⟩
  · rintro ⟨hlt, hline, hlast⟩
    refine ⟨⟨i.1, List.mem_range.2 (by omega), ?_⟩, hlast⟩
    rw [← hline]

/-- No two lines are drawn in one row. -/
theorem pairwise_rows : (e.rows d).Pairwise fun i j => i.1 ≠ j.1 := by
  refine List.Pairwise.filter _ (List.pairwise_map.2 ?_)
  exact List.nodup_range

/-- What is made of a list in which one member alone has something. -/
theorem flatMap_of_alone {α β : Type} (key : α → Nat) {f : α → List β} {as : List α}
    (hkeys : as.Pairwise fun a b => key a ≠ key b) {a : α} (ha : a ∈ as)
    (hf : ∀ b ∈ as, key b ≠ key a → f b = []) : as.flatMap f = f a := by
  induction as with
  | nil => cases ha
  | cons b as ih =>
    obtain ⟨hb, hkeys⟩ := List.pairwise_cons.1 hkeys
    obtain ⟨hfirst, hrest⟩ := List.forall_mem_cons.1 hf
    rw [List.flatMap_cons]
    rcases List.mem_cons.1 ha with rfl | ha
    · have hnone : as.flatMap f = [] :=
        List.flatMap_eq_nil_iff.2 fun c hc => hrest c hc (Ne.symm (hb c hc))
      rw [hnone, List.append_nil]
    · rw [hfirst (hb a ha), ih hkeys ha hrest, List.nil_append]

/-- What is drawn of code that can be drawn. -/
theorem draws_drawCode (h : (e.drawCode lexer d).failure = none) :
    ∃ table, e.annotations d = .ok table ∧
      (∀ i ∈ e.rows d, (e.drawRow lexer d table i).failure = none) ∧
      (e.drawCode lexer d).draws =
        (e.windows.code, .clear) :: (e.rows d).flatMap fun i => (e.drawRow lexer d table i).draws := by
  unfold drawCode at h ⊢
  cases htable : e.annotations d with
  | error x =>
    rw [htable] at h
    cases h
  | ok table =>
    rw [htable] at h
    obtain ⟨hall, hdraws⟩ := Drawing.draws_all h
    refine ⟨table, rfl, fun i hi => ?_, hdraws.trans ?_⟩
    · exact hall _ (List.mem_cons_of_mem _ (List.mem_map_of_mem hi))
    · rw [List.flatMap_cons, List.flatMap_map]
      rfl

/-- The texts of a row of the code are those of its line. -/
theorem textsIn_rows {i : Nat × Int} (hi : i ∈ e.rows d)
    (h : ∀ j ∈ e.rows d, (e.drawRow lexer d table j).failure = none) :
    textsIn i.1 ((e.rows d).flatMap fun j => (e.drawRow lexer d table j).draws) =
      textsIn i.1 (e.drawRow lexer d table i).draws := by
  rw [textsIn_flatMap]
  refine flatMap_of_alone Prod.fst pairwise_rows hi fun j hj hne => ?_
  exact textsIn_drawRow_of_ne (h j hj) fun heq => hne (Int.ofNat.inj heq)

theorem textsIn_rows_of_ne (h : ∀ j ∈ e.rows d, (e.drawRow lexer d table j).failure = none)
    (hr : ∀ j ∈ e.rows d, (j.1 : Int) ≠ r) :
    textsIn r ((e.rows d).flatMap fun j => (e.drawRow lexer d table j).draws) = [] := by
  rw [textsIn_flatMap]
  exact List.flatMap_eq_nil_iff.2 fun j hj => textsIn_drawRow_of_ne (h j hj) (hr j hj)

/-! ## Annotations -/

/-- The annotation of a line: the remarks of its literals, put together, and none where decorations are
    not seen. -/
def annotationOf (e : Editor) (line : Text) : Except NumeralError Text :=
  if e.session.decorationsVisible then (remarksIn line).map List.flatten else .ok []

/-- What the annotations of a document have for a line is the annotation of the line. -/
theorem annotationOf_eq (htable : e.annotations d = .ok table) {n : Nat} {l : Text}
    (hl : d.lines[n]? = some l) : e.annotationOf l = .ok ((table.get? (n : Int)).getD []) := by
  unfold annotationOf
  split
  · rename_i hseen
    obtain ⟨ls, rs, hscan, hremarks, hentry⟩ := get?_annotations hseen htable hl
    rw [remarksIn_eq_ok_iff.2 ⟨ls, hscan, hremarks⟩, hentry]
    split
    · rename_i hnone
      subst hnone
      obtain rfl : [] = rs := Except.ok.inj hremarks
      rfl
    · rfl
  · rename_i hhidden
    rw [annotations, Session.decorationsOf, if_neg hhidden] at htable
    obtain rfl := Except.ok.inj htable
    rfl

theorem head?_of_annotationOf {l t : Text} (h : e.annotationOf l = .ok t) :
    t = [] ∨ t.head? = some ' ' := by
  unfold annotationOf at h
  split at h
  · obtain ⟨rs, hrs, rfl⟩ := exists_of_map_eq_ok h
    exact head?_flatten_of_remarksIn hrs
  · obtain rfl := Except.ok.inj h
    exact .inl rfl

/-- The character at the cursor is the one that stands there, in the line or in what is drawn behind. -/
theorem cursorChar_eq {l t : Text} (ht : t = [] ∨ t.head? = some ' ') {column : Int}
    (hlow : 0 ≤ column) (hhigh : column ≤ l.length) {c : Char} (h : cursorChar l column = .ok c) :
    (l ++ t).getD column.toNat ' ' = c := by
  obtain ⟨n, rfl⟩ := Int.eq_ofNat_of_zero_le hlow
  rw [Int.toNat_natCast, List.getD_eq_getElem?_getD]
  unfold cursorChar at h
  split at h
  · -- behind the line, where nothing stands or a remark begins
    obtain rfl : n = l.length := by omega
    obtain rfl := Except.ok.inj h
    rw [List.getElem?_append_right (Nat.le_refl _), Nat.sub_self, ← List.head?_eq_getElem?]
    rcases ht with rfl | hspace
    · rfl
    · rw [hspace]
      rfl
  · have hn : n < l.length := by omega
    rw [Text.index?_natCast hn] at h
    obtain rfl := Except.ok.inj h
    rw [List.getElem?_append_left hn, List.getD_eq_getElem?_getD]

/-! ## The window of the code -/

/-- Whether the window of the code has the size that the screen leaves for it, if the screen is large
    enough. -/
def CodeFits (e : Editor) : Prop :=
  isTooSmall e.height e.width = false → e.windows.code = (windowsOf e.height e.width).code

theorem SameScreen.codeFits (h : e.SameScreen e') (hfits : e.CodeFits) : e'.CodeFits := by
  intro hroom
  rw [h.height, h.width] at hroom ⊢
  rw [h.code]
  exact hfits hroom

theorem codeFits_resize (height width : Int) : (e.resize height width).CodeFits := by
  unfold resize
  dsimp only
  split
  · rename_i hsmall
    intro hroom
    exact absurd hsmall (Bool.eq_false_iff.1 hroom)
  · exact fun _ => rfl

theorem sameScreen_refresh (lexers : Document → Highlight.Lexer) :
    e.SameScreen (e.refresh lexers).state := by
  have hwindow : e.SameScreen (if e.isConverting then e.withDialogWindow else e) := by
    split <;> exact ⟨rfl, rfl, rfl⟩
  unfold refresh
  generalize (if e.isConverting then e.withDialogWindow else e) = e₁ at hwindow ⊢
  dsimp only
  refine hwindow.trans ?_
  split
  · exact ⟨rfl, rfl, rfl⟩
  · split <;> exact ⟨rfl, rfl, rfl⟩

namespace CodeFits

/-- **Every turn** leaves the window of the code as it fits. -/
theorem turn (h : e.CodeFits) (t : Turn) : (e.turn t).CodeFits := by
  cases t with
  | press k another => exact (goes_press e k another).screen.codeFits h
  | resize height width => exact codeFits_resize height width
  | refresh lexers => exact (sameScreen_refresh lexers).codeFits h
  | outside world notes => exact h

theorem turnAll (h : e.CodeFits) (turns : List Turn) : (e.turnAll turns).CodeFits := by
  induction turns generalizing e with
  | nil => exact h
  | cons t turns ih => exact ih (h.turn t)

theorem openAll (h : e.CodeFits) (created : Option String) (ds : List Document) :
    (e.openAll created ds).CodeFits := by
  induction ds generalizing e with
  | nil =>
    rw [Editor.openAll, sayCreated_eq]
    exact h
  | cons d ds ih =>
    have hopen : (e.addDocument d).CodeFits := h
    exact ih hopen

theorem start {session : Session} {world : World} {height width : Int}
    (h : start session world height width = .ok e) : e.CodeFits := by
  unfold Editor.start at h
  split at h
  · cases h
  · obtain rfl := Except.ok.inj h
    exact fun _ => rfl

end CodeFits

/-! ## What is seen -/

/-- Whether what is drawn of the code shows a document in the window of the code. -/
structure Shows (e : Editor) (d : Document) (draws : List Draw) : Prop where
  window : ∀ x ∈ draws, x.1 = (windowsOf e.height e.width).code
  /-- In the rows that have a line stands as much of it and of its annotation as there is room for. -/
  lines : ∀ i : Nat, (i : Int) < codeHeight e.height → e.firstLine d + i < d.lines.length →
    ∃ line annotation, d.lines[(e.firstLine d + i).toNat]? = some line ∧
      e.annotationOf line = .ok annotation ∧
      Spells (e.width - numberWidth) (textsIn i draws) (line ++ annotation)
  elsewhere : ∀ r : Int, r < 0 ∨ codeHeight e.height ≤ r ∨ d.lines.length ≤ e.firstLine d + r →
    textsIn r draws = []
  /-- The line of the cursor has a row. -/
  cursorLine : ∃ i : Nat, (i : Int) < codeHeight e.height ∧ e.firstLine d + i = d.line
  /-- Single characters are drawn at the cursor alone, and they are those that stand there.  This is
      about the call, which has the code of the character; what a terminal shows for a code above 255
      may be another character. -/
  cursor : ∀ w r column c a, (w, .char r column c a) ∈ draws →
    e.firstLine d + r = d.line ∧ column = d.column ∧
      ∃ annotation, e.annotationOf d.currentLine = .ok annotation ∧
        (d.currentLine ++ annotation).getD d.column.toNat ' ' = c

theorem firstLine_nonneg (e : Editor) (d : Document) : 0 ≤ e.firstLine d := Int.le_max_left 0 _

/-- The line of the cursor is among those that are shown. -/
theorem exists_row_of_line (hrows : 0 < codeHeight e.height) (hline : 0 ≤ d.line) :
    ∃ i : Nat, (i : Int) < codeHeight e.height ∧ e.firstLine d + i = d.line := by
  have hhalf : (codeHeight e.height).fdiv 2 = codeHeight e.height / 2 :=
    Int.fdiv_eq_ediv_of_nonneg _ (by omega)
  have hfirst : e.firstLine d = max 0 (d.line - codeHeight e.height / 2) := by
    rw [firstLine, hhalf]
  rcases Int.lt_or_le d.line (codeHeight e.height / 2) with hnear | hfar
  · exact ⟨d.line.toNat, by omega, by omega⟩
  · exact ⟨(codeHeight e.height / 2).toNat, by omega, by omega⟩

theorem getElem?_line {n : Int} (hlow : 0 ≤ n) (hlt : n < d.lines.length) :
    d.lines[n.toNat]? = some (lineOrEmpty d.lines n) := by
  have hn : n.toNat < d.lines.length := by omega
  rw [lineOrEmpty, if_neg (by omega), List.getD_eq_getElem?_getD, List.getElem?_eq_getElem hn]
  rfl

/-- **What is drawn of the code shows the document.** -/
theorem shows_drawCode (hfits : e.CodeFits) (hroom : isTooSmall e.height e.width = false)
    (hin : d.CursorInside) (h : (e.drawCode lexer d).failure = none) :
    e.Shows d (e.drawCode lexer d).draws := by
  obtain ⟨table, htable, hall, hdraws⟩ := draws_drawCode h
  have hcode := hfits hroom
  have hheight : e.windows.code.height = codeHeight e.height := by rw [hcode]; rfl
  have hwidth : e.windows.code.width = e.width - numberWidth := by rw [hcode]; rfl
  have hfirst := e.firstLine_nonneg d
  have hannotation : ∀ n : Int, 0 ≤ n → n < d.lines.length →
      e.annotationOf (lineOrEmpty d.lines n) = .ok ((table.get? n).getD []) := by
    intro n hlow hlt
    have hentry := annotationOf_eq htable (getElem?_line hlow hlt)
    rwa [Int.toNat_of_nonneg hlow] at hentry
  have hclear : ∀ r ds, textsIn r ((e.windows.code, .clear) :: ds) = textsIn r ds := fun _ _ => rfl
  rw [hdraws]
  refine ⟨?_, ?_, ?_, ?_, ?_⟩
  · intro x hx
    rw [← hcode]
    rcases List.mem_cons.1 hx with rfl | hx
    · rfl
    · obtain ⟨i, hi, hx⟩ := List.mem_flatMap.1 hx
      rcases mem_drawRow (hall i hi) hx with ⟨column, u, a, rfl⟩ | hx
      · rfl
      · obtain ⟨-, c, -, rfl⟩ := mem_overlay hx
        rfl
  · intro i hi hline
    have hmem : (i, e.firstLine d + i) ∈ e.rows d := mem_rows.2 ⟨hi, rfl, hline⟩
    obtain ⟨ts, hts, hlaid⟩ := textsIn_drawRow (hall _ hmem) (hheight ▸ hi)
    refine ⟨_, _, getElem?_line (by omega) hline, hannotation _ (by omega) hline, ?_⟩
    rw [hclear, textsIn_rows hmem hall, hlaid, ← hts, ← hwidth]
    exact spells_laid _ ts
  · intro r hr
    rw [hclear]
    refine textsIn_rows_of_ne hall fun j hj => ?_
    obtain ⟨hj, hjline, hjlast⟩ := mem_rows.1 hj
    omega
  · have hrows : 0 < codeHeight e.height := by
      simp only [isTooSmall, Bool.or_eq_false_iff, decide_eq_false_iff_not, Int.not_lt] at hroom
      have hlarge := hroom.1
      unfold leastHeight at hlarge
      unfold codeHeight panelHeight
      omega
    exact exists_row_of_line hrows hin.line_nonneg
  · intro w r column c a hx
    rcases List.mem_cons.1 hx with hx | hx
    · cases hx
    · obtain ⟨i, hi, hx⟩ := List.mem_flatMap.1 hx
      obtain ⟨-, hline, -⟩ := mem_rows.1 hi
      rcases mem_drawRow (hall i hi) hx with ⟨column, u, a, hx⟩ | hx
      · cases hx
      · obtain ⟨hcursor, c', hc, hx⟩ := mem_overlay hx
        cases hx
        rw [hcursor] at hc
        have hnote := hannotation d.line hin.line_nonneg hin.line_lt
        refine ⟨by omega, rfl, _, hnote, ?_⟩
        exact cursorChar_eq (head?_of_annotationOf hnote) hin.column_nonneg hin.column_le hc

/-- **The code view shows exactly the document window.**  Documents are opened in an editor that starts
    on a screen that is large enough, perhaps with a message about a new one, and then there are turns of
    any kind, which may make the screen too small for a while.  If it is large enough in the end and the
    cursor of the active document stands inside, then this is the document that is shown, and whatever
    the lexer, the code can be drawn exactly if all literals of the shown rows can be read, and those of
    the whole text written in decimal where decorations are seen.

    What is drawn then is all in the window of the code, six columns narrower than the screen.  In each
    of its rows that has a line, texts stand one behind another from the first column on, without gaps
    and without anything drawn twice, and spell as much of the line with its annotation behind it as
    there are columns, and nothing reaches past the last one.  In the other rows stands no text.  The
    line of the cursor has a row, and the only call for a single character is made there, at the cursor,
    with the code of the character that stands there. -/
theorem code_view_exact {session : Session} {world : World} {height width : Int}
    (hstart : start session world height width = .ok e) (created : Option String)
    (ds : List Document) (turns : List Turn) :
    let e' := (e.openAll created ds).turnAll turns
    isTooSmall e'.height e'.width = false → ∀ d, e'.document? = some d → d.CursorInside →
      e'.shown = .ok d ∧ ∀ lexer : Highlight.Lexer,
        ((e'.drawCode lexer d).failure = none ↔
          (e'.session.decorationsVisible = true → AllFit .decimal d.text) ∧
            ∀ i ∈ e'.rows d, AllReadable (lineOrEmpty d.lines i.2)) ∧
        ((e'.drawCode lexer d).failure = none → e'.Shows d (e'.drawCode lexer d).draws) := by
  intro e' hroom d hd hin
  have hfits : e'.CodeFits := ((CodeFits.start hstart).openAll created ds).turnAll turns
  refine ⟨shown_eq hd, fun lexer => ⟨?_, ?_⟩⟩
  · rw [← Drawing.failure_eq_none_iff]
    exact (drawCode_returnsIff hin).ok_iff
  · exact shows_drawCode hfits hroom hin

/-- On the smallest screen the annotation of the first line is cut, and the last row is empty. -/
theorem code_view_exact_cut :
    let e : Editor := { onDocument (.ofText []) with documents := [] }
    let e' := (e.openAll none [.ofText "a 7\nb".toList]).turnAll
      [.resize 10 20, .resize 16 40, .press 258 0]
    let d : Document := { Document.ofText "a 7\nb".toList with line := 1 }
    let lexer : Highlight.Lexer := fun l => [(["Keyword"], l.take 1)]
    start e.session e.world 16 40 = .ok e ∧ isTooSmall e'.height e'.width = false ∧
      e'.document? = some d ∧ d.CursorInside ∧ (e'.drawCode lexer d).failure = none ∧
      (textsIn 0 (e'.drawCode lexer d).draws).flatMap (·.2) =
        "a 7 ⟶ Dec: 7 | Hex: 0x7 | Bin: 0b1".toList ∧
      (textsIn 1 (e'.drawCode lexer d).draws).flatMap (·.2) = ['b'] ∧
      textsIn 2 (e'.drawCode lexer d).draws = [] := by
  intro e e' d lexer
  have hstart : start e.session e.world 16 40 = .ok e := rfl
  have hroom : isTooSmall e'.height e'.width = false := rfl
  have hd : e'.document? = some d := by decide +kernel
  have hin : d.CursorInside := ⟨by decide, by decide, by decide, by decide⟩
  obtain ⟨-, hdrawn⟩ := code_view_exact hstart none _ _ hroom d hd hin
  obtain ⟨hfails, hshows⟩ := hdrawn lexer
  have hfit : AllFit .decimal d.text := by
    have hes : cycleEdits .decimal d.text = .ok [⟨2, 3, ['7']⟩] := by decide +kernel
    exact exists_cycleEdits_iff.1 ⟨_, hes⟩
  have hnone : (e'.drawCode lexer d).failure = none :=
    hfails.2 ⟨fun _ => hfit, fun i _ => allReadable_lineOrEmpty hfit.allReadable i.2⟩
  have h := hshows hnone
  -- the line of each row and its annotation, and the first columns of both
  have hfirst : d.lines[(e'.firstLine d + (0 : Nat)).toNat]? = some "a 7".toList := by decide +kernel
  have hsecond : d.lines[(e'.firstLine d + (1 : Nat)).toNat]? = some ['b'] := by decide +kernel
  have hseven : e'.annotationOf "a 7".toList =
      .ok " ⟶ Dec: 7 | Hex: 0x7 | Bin: 0b111 | Oct: 0o7".toList := by decide +kernel
  have hletter : e'.annotationOf ['b'] = .ok [] := by decide +kernel
  obtain ⟨l, t, hl, ht, hrow⟩ := h.lines 0 (by decide +kernel) (by decide +kernel)
  obtain ⟨m, u, hm, hu, hnext⟩ := h.lines 1 (by decide +kernel) (by decide +kernel)
  obtain rfl := Option.some.inj (hfirst.symm.trans hl)
  obtain rfl := Option.some.inj (hsecond.symm.trans hm)
  obtain rfl := Except.ok.inj (hseven.symm.trans ht)
  obtain rfl := Except.ok.inj (hletter.symm.trans hu)
  refine ⟨hstart, hroom, hd, hin, hnone, ?_, ?_, ?_⟩
  · exact hrow.spelling.trans (by decide +kernel)
  · exact hnext.spelling.trans (by decide +kernel)
  · exact h.elsewhere 2 (.inr (.inr (by decide +kernel)))

end Editor

end Respell
