/-
  When the editor goes on.

  A drawing or a key that fails is handed on and ends the editor.  Failures of the program's own rules
  become messages, but a number that cannot be converted is none of these, and every drawing and some of
  the keys convert the numbers of the document.  This file says for each of them just when it fails, and
  that it fails for nothing else.

  1. **Results** (`ReturnsIff`): there is one if and only if something holds, and where there is none it
     is for a number.  Such statements are put together as the results are (`ReturnsIff.bind`).

  2. **Drawing** (`refresh_returnsIff`).  The rows that are shown have their literals read for the
     colours, the text has all of them written for the remarks, if these are seen, and the panel has
     the one at the cursor written.

  3. **Keys.**  A step of the format writes all literals in the next base, going to the next literal or
     the previous one reads them all, the dialog is opened by a search, and carrying its request out
     takes what the policy takes.

  4. **Every state** that can be reached on a screen that is large enough is in order, so that there is
     nothing else that could fail (`fails_for_numbers_only`).
-/
import Respell.Proofs.FormatStep
import Respell.Proofs.LineByLine
import Respell.Proofs.Turns

namespace Respell

open Document (lineOrEmpty)
open Literal (spellings)

/-! ## Results -/

/-- Whether there is a result if and only if something holds, and where there is none a number could not
    be converted. -/
structure ReturnsIff {α : Type} (P : Prop) (r : Except Failure α) : Prop where
  ok_iff : (∃ a, r = .ok a) ↔ P
  numeral : ∀ x, r = .error x → ∃ n, x = .numeral n

namespace ReturnsIff

variable {α β : Type} {P Q : Prop} {r : Except Failure α}

theorem congr (h : ReturnsIff P r) (hPQ : P ↔ Q) : ReturnsIff Q r := ⟨h.ok_iff.trans hPQ, h.numeral⟩

theorem of_ok {a : α} (hr : r = .ok a) (hP : P) : ReturnsIff P r :=
  ⟨iff_of_true ⟨a, hr⟩ hP, fun _ hx => nomatch hr.symm.trans hx⟩

theorem of_error {n : NumeralError} (hr : r = .error (.numeral n)) (hP : ¬ P) : ReturnsIff P r :=
  ⟨iff_of_false (fun ⟨_, ha⟩ => nomatch hr.symm.trans ha) hP,
    fun _ hx => ⟨n, (Except.error.inj (hr.symm.trans hx)).symm⟩⟩

theorem exists_error (h : ReturnsIff P r) (hP : ¬ P) : ∃ n, r = .error (.numeral n) := by
  cases hr : r with
  | ok a => exact absurd (h.ok_iff.1 ⟨a, hr⟩) hP
  | error x =>
    obtain ⟨n, rfl⟩ := h.numeral x hr
    exact ⟨n, rfl⟩

theorem bind (h : ReturnsIff P r) {f : α → Except Failure β}
    (hf : ∀ a, r = .ok a → ReturnsIff Q (f a)) : ReturnsIff (P ∧ Q) (r.bind f) := by
  by_cases hP : P
  · obtain ⟨a, rfl⟩ := h.ok_iff.2 hP
    exact (hf a rfl).congr (and_iff_right hP).symm
  · obtain ⟨n, rfl⟩ := h.exists_error hP
    exact of_error rfl fun hPQ => hP hPQ.1

theorem map (h : ReturnsIff P r) (f : α → β) : ReturnsIff P (r.map f) :=
  (h.bind (f := fun a => .ok (f a)) fun _ _ => of_ok rfl trivial).congr (iff_of_eq (and_true P))

end ReturnsIff

namespace Drawing

/-- What becomes of a drawing. -/
def result (d : Drawing) : Except Failure Unit :=
  match d.failure with
  | none => .ok ()
  | some x => .error x

theorem result_ofDraws (ds : List Draw) : (ofDraws ds).result = .ok () := rfl

theorem result_followedBy (a b : Drawing) :
    (a.followedBy b).result = a.result.bind fun _ => b.result := by
  unfold followedBy
  rw [result.eq_def a]
  cases h : a.failure with
  | none => rfl
  | some x =>
    show result a = _
    rw [result, h]
    rfl

theorem returnsIff_all_cons {P Q : Prop} {a : Drawing} {ds : List Drawing} (ha : ReturnsIff P a.result)
    (hds : ReturnsIff Q (all ds).result) : ReturnsIff (P ∧ Q) (all (a :: ds)).result := by
  rw [all, result_followedBy]
  exact ha.bind fun _ _ => hds

theorem returnsIff_all_nil : ReturnsIff True (all []).result := .of_ok (a := ()) rfl trivial

theorem returnsIff_all_map {α : Type} {as : List α} {P : α → Prop} {f : α → Drawing}
    (h : ∀ a ∈ as, ReturnsIff (P a) (f a).result) :
    ReturnsIff (∀ a ∈ as, P a) (all (as.map f)).result := by
  induction as with
  | nil => exact returnsIff_all_nil.congr (iff_of_true trivial nofun)
  | cons a as ih =>
    obtain ⟨ha, has⟩ := List.forall_mem_cons.1 h
    exact (returnsIff_all_cons ha (ih has)).congr List.forall_mem_cons.symm

end Drawing

/-! ## Drawing -/

/-- A line is coloured if its literals can be read. -/
theorem exists_colours_iff {tokens : List (Kind × Text)} {line : Text} :
    (∃ pieces, Highlight.colours tokens line = .ok pieces) ↔ AllReadable line := by
  unfold Highlight.colours
  cases line with
  | nil => exact iff_of_true ⟨_, rfl⟩ allReadable_nil
  | cons c line =>
    rw [if_neg (by simp), exists_map_iff, Highlight.segments, exists_map_iff, Highlight.categories,
      exists_map_iff, exists_scan_iff]

namespace Editor

variable {e : Editor} {d : Document} {lexer : Highlight.Lexer} {lexers : Document → Highlight.Lexer}

theorem shown_eq (h : e.document? = some d) : e.shown = .ok d := by
  unfold document? at h
  split at h
  · cases h
  · rename_i hlow
    obtain ⟨i, hi⟩ := Int.eq_ofNat_of_zero_le (Int.not_lt.1 hlow)
    rw [hi, Int.toNat_natCast] at h
    have hlt : i < e.documents.length := (List.getElem?_eq_some_iff.1 h).1
    unfold shown
    rw [hi, Text.index?_natCast hlt]
    dsimp only
    rw [h]

/-- The character at the cursor is there if the cursor stands inside. -/
theorem exists_cursorChar (hin : d.CursorInside) : ∃ c, cursorChar d.currentLine d.column = .ok c := by
  have hlow := hin.column_nonneg
  unfold cursorChar
  split
  · exact ⟨' ', rfl⟩
  · rename_i hlt
    obtain ⟨i, hi⟩ := Int.eq_ofNat_of_zero_le hlow
    rw [hi, Text.index?_natCast (by omega)]
    exact ⟨_, rfl⟩

theorem result_drawCursor (hin : d.CursorInside) (w : Window) (row : Nat) :
    (drawCursor w row d.currentLine d.column).result = .ok () := by
  obtain ⟨c, hc⟩ := exists_cursorChar hin
  rw [drawCursor, hc]
  rfl

/-- A row is drawn if its literals can be read. -/
theorem drawRow_returnsIff (hin : d.CursorInside) (lexer : Highlight.Lexer)
    (annotations : Table Int Text) (r : Nat × Int) :
    ReturnsIff (AllReadable (lineOrEmpty d.lines r.2)) (e.drawRow lexer d annotations r).result := by
  unfold drawRow
  dsimp only
  rw [← @exists_colours_iff (lexer (lineOrEmpty d.lines r.2))]
  cases Highlight.colours (lexer (lineOrEmpty d.lines r.2)) (lineOrEmpty d.lines r.2) with
  | error n => exact .of_error rfl not_exists_error
  | ok pieces =>
    refine .of_ok (a := ()) ?_ ⟨pieces, rfl⟩
    have hannotation : ∀ w row line t?, Drawing.result ( drawAnnotation w row line t?) = .ok () := by
      intro w row line t?
      cases t? <;> rfl
    have hcursor : (if r.2 = d.line
        then drawCursor e.windows.code r.1 (lineOrEmpty d.lines r.2) d.column
        else .ofDraws []).result = .ok () := by
      split
      · rename_i hline
        rw [hline]
        exact result_drawCursor hin _ _
      · rfl
    simp only [Drawing.all, Drawing.result_followedBy, Drawing.result_ofDraws, hannotation, hcursor]
    rfl

theorem exists_annotations_iff_allFit :
    (∃ table, e.annotations d = .ok table) ↔
      (e.session.decorationsVisible = true → AllFit .decimal d.text) := by
  rw [annotations, exists_map_iff, exists_decorations_iff]

/-- The code is drawn if there are remarks, as far as they are seen, and each row can be drawn. -/
theorem drawCode_returnsIff (hin : d.CursorInside) :
    ReturnsIff ((e.session.decorationsVisible = true → AllFit .decimal d.text) ∧
      ∀ r ∈ e.rows d, AllReadable (lineOrEmpty d.lines r.2)) (e.drawCode lexer d).result := by
  have hremarks := exists_annotations_iff_allFit (e := e) (d := d)
  unfold drawCode
  cases htable : e.annotations d with
  | error n =>
    refine .of_error rfl fun h => ?_
    obtain ⟨table, hok⟩ := hremarks.2 h.1
    cases htable.symm.trans hok
  | ok table =>
    dsimp only
    rw [Drawing.all, Drawing.result_followedBy]
    have hrows := Drawing.returnsIff_all_map fun r (_ : r ∈ e.rows d) =>
      drawRow_returnsIff (e := e) hin lexer table r
    exact hrows.congr (and_iff_right (hremarks.1 ⟨table, htable⟩)).symm

/-- The panel is drawn if the literal at the cursor can be found and written. -/
theorem drawPanel_returnsIff :
    ReturnsIff (Searchable d.text d.cursor ∧
      ∀ l, Literal.at? d.text d.cursor = .ok (some l) → l.value < 10 ^ digitLimit)
      (e.drawPanel d).result := by
  rw [← exists_hover_iff]
  unfold drawPanel
  dsimp only
  rw [Drawing.result_followedBy]
  cases Session.hover d.text d.cursor with
  | error n => exact .of_error rfl not_exists_error
  | ok shown =>
    refine .of_ok (a := ()) ?_ ⟨shown, rfl⟩
    cases shown <;> rfl

/-- What it takes to draw a document. -/
structure Drawable (e : Editor) (d : Document) : Prop where
  remarks : e.session.decorationsVisible = true → AllFit .decimal d.text
  rows : ∀ r ∈ e.rows d, AllReadable (lineOrEmpty d.lines r.2)
  search : Searchable d.text d.cursor
  panel : ∀ l, Literal.at? d.text d.cursor = .ok (some l) → l.value < 10 ^ digitLimit

theorem drawMiddle_returnsIff (he : e.isConverting = false) (h : e.document? = some d)
    (hin : d.CursorInside) : ReturnsIff (e.Drawable d) (e.drawMiddle lexers).result := by
  have hsome : e.documents.isEmpty = false :=
    List.isEmpty_eq_false_iff.2 (List.ne_nil_of_mem (mem_of_document? h))
  have hmiddle : e.drawMiddle lexers =
      Drawing.all [e.drawNumbers d, e.drawCode (lexers d) d, e.drawPanel d] := by
    unfold drawMiddle
    rw [he, hsome, shown_eq h]
    rfl
  have hnumbers : ReturnsIff True (e.drawNumbers d).result := .of_ok (a := ()) rfl trivial
  rw [hmiddle]
  refine (Drawing.returnsIff_all_cons hnumbers (Drawing.returnsIff_all_cons (drawCode_returnsIff hin)
    (Drawing.returnsIff_all_cons drawPanel_returnsIff Drawing.returnsIff_all_nil))).congr ?_
  constructor
  · rintro ⟨-, ⟨hremarks, hrows⟩, ⟨hsearch, hpanel⟩, -⟩
    exact ⟨hremarks, hrows, hsearch, hpanel⟩
  · rintro ⟨hremarks, hrows, hsearch, hpanel⟩
    exact ⟨trivial, ⟨hremarks, hrows⟩, ⟨hsearch, hpanel⟩, trivial⟩

/-- The status can always be drawn, if a document is active or there is none. -/
theorem result_drawStatus (h : e.documents = [] ∨ ∃ d, e.document? = some d) :
    e.drawStatus.result = .ok () := by
  rcases h with hnone | ⟨d, hd⟩
  · unfold drawStatus
    rw [hnone]
    rfl
  · unfold drawStatus
    rw [shown_eq hd]
    dsimp only
    split
    · rfl
    · split <;> rfl

/-- So everything is drawn if what stands in the middle is. -/
theorem draw_returnsIff {P : Prop} (hmiddle : ReturnsIff P (e.drawMiddle lexers).result)
    (h : e.documents = [] ∨ ∃ d, e.document? = some d) : ReturnsIff P (e.draw lexers).result := by
  have htabs : ReturnsIff True e.drawTabs.result := .of_ok (a := ()) rfl trivial
  have hstatus : ReturnsIff True e.drawStatus.result := .of_ok (result_drawStatus h) trivial
  refine (Drawing.returnsIff_all_cons htabs (Drawing.returnsIff_all_cons hmiddle
    (Drawing.returnsIff_all_cons hstatus Drawing.returnsIff_all_nil))).congr ?_
  simp only [true_and, and_true]

theorem result_draw (hmiddle : (e.drawMiddle lexers).result = .ok ())
    (h : e.documents = [] ∨ ∃ d, e.document? = some d) : (e.draw lexers).result = .ok () := by
  obtain ⟨a, ha⟩ := (draw_returnsIff (.of_ok hmiddle trivial) h).ok_iff.2 trivial
  exact ha

theorem result_refresh (e : Editor) (lexers : Document → Highlight.Lexer) :
    (e.refresh lexers).result =
      ((if e.isConverting then e.withDialogWindow else e).draw lexers).result := by
  unfold refresh Drawing.result
  generalize (if e.isConverting then e.withDialogWindow else e) = e₁
  dsimp only
  cases (e₁.draw lexers).failure with
  | some x => rfl
  | none =>
    dsimp only
    split <;> rfl

/-- **Drawing a document** takes what the lines, the remarks and the panel take. -/
theorem refresh_returnsIff (he : e.isConverting = false) (h : e.document? = some d)
    (hin : d.CursorInside) : ReturnsIff (e.Drawable d) (e.refresh lexers).result := by
  rw [result_refresh, he]
  exact draw_returnsIff (drawMiddle_returnsIff he h hin) (.inr ⟨d, h⟩)

/-- The dialog stands in front of the document and can always be drawn. -/
theorem refresh_dialog (he : e.isConverting = true) (h : e.document? = some d) :
    (e.refresh lexers).result = .ok () := by
  have hmiddle : (e.withDialogWindow.drawMiddle lexers).result = .ok () := by
    have he : e.withDialogWindow.isConverting = true := he
    unfold drawMiddle
    rw [he]
    rfl
  rw [result_refresh, he]
  exact result_draw hmiddle (.inr ⟨d, h⟩)

/-- An editor without documents can be drawn. -/
theorem refresh_empty (he : e.isConverting = false) (h : e.documents = []) :
    (e.refresh lexers).result = .ok () := by
  have hmiddle : (e.drawMiddle lexers).result = .ok () := by
    unfold drawMiddle
    rw [he, h]
    rfl
  rw [result_refresh, he]
  exact result_draw hmiddle (.inl h)

/-! ## Keys -/

/-- A command has the result that it has, with the answer whether the editor goes on. -/
theorem result_press_command (he : e.isConverting = false) (h : e.document? = some d) {k : Int}
    (another : Int) {c : Command} (hk : k ≠ escape) (hc : Command.ofKey? k = some c) :
    (e.press k another).result = (e.perform c).result.map fun _ => !(e.perform c).state.leaving := by
  rw [press, he, h, hc, if_neg Bool.false_ne_true, if_neg hk]
  dsimp only
  unfold Attempt.andThen
  cases (e.perform c).result <;> rfl

theorem toggleFormat_returnsIff (h : e.document? = some d) (hin : d.CursorInside) :
    ReturnsIff (AllFit e.session.format.next d.text) e.toggleFormat.result := by
  unfold toggleFormat
  dsimp only
  split
  · rename_i hnone
    cases h.symm.trans hnone
  · rename_i d' hd
    obtain rfl : d = d' := Option.some.inj (h.symm.trans hd)
    by_cases hfit : AllFit e.session.format.next d.text
    · obtain ⟨ls, u, d', -, -, hrun, -⟩ := Session.respellAll_of_allFit (s := e.session.advance) hin hfit
      rw [hrun]
      exact .of_ok (a := ()) rfl hfit
    · -- the failure is not one of the program's own rules
      obtain ⟨n, -, hrun⟩ := Session.respellAll_of_not_allFit (s := e.session.advance) hfit
      rw [hrun]
      exact .of_error rfl hfit

theorem jump_returnsIff {search : Document → Except NumeralError (Option Literal)} {P : Prop}
    (h : e.document? = some d) (hsearch : (∃ found, search d = .ok found) ↔ P) :
    ReturnsIff P (e.jump search).result := by
  rw [jump, withDocument, h, ← hsearch]
  dsimp only
  cases search d with
  | error n => exact .of_error rfl not_exists_error
  | ok found =>
    refine .of_ok (a := ()) ?_ ⟨found, rfl⟩
    cases found <;> rfl

theorem startConvert_returnsIff (h : e.document? = some d) :
    ReturnsIff (Searchable d.text d.cursor) e.startConvert.result := by
  rw [startConvert, withDocument, h, ← exists_at?_iff, ← Navigation.atCursor?]
  dsimp only
  cases Navigation.atCursor? d with
  | error n => exact .of_error rfl not_exists_error
  | ok found =>
    refine .of_ok (a := ()) ?_ ⟨found, rfl⟩
    cases found <;> rfl

/-- **Carrying a request out** takes what its policy takes. -/
theorem executeConvert_returnsIff {l : Literal} (ht : e.dialog.target = some l)
    (h : e.document? = some d) (hl : l ∈ okPart (Literal.readAll d.text)) (hin : d.CursorInside) :
    ReturnsIff ((e.dialog.policy l).Feasible e.session.guard d.text) e.executeConvert.result := by
  obtain ⟨r, hr⟩ : ∃ r, e.request? = some r := ⟨_, by rw [request?, ht, Option.map_some]⟩
  have hwork := replace_eq ht hr e.session d
  have hclosed : e.closeDialog.document? = some d := h
  rw [executeConvert, hr, ← exists_edits_iff]
  dsimp only
  rw [hclosed]
  dsimp only
  cases hes : (e.dialog.policy l).edits e.session.guard d.text with
  | error n =>
    rw [hes] at hwork
    have hwork : e.closeDialog.session.replace d r = .failed d (.numeral n) := hwork
    rw [hwork]
    exact .of_error rfl not_exists_error
  | ok es =>
    obtain ⟨u, hu⟩ := Dialog.exists_applyAll_of_edits hl hes
    obtain ⟨d', hrun, -⟩ := Session.exists_applyMade hin hu
    rw [hes] at hwork
    have hwork : e.closeDialog.session.replace d r = .done d' es.length := hwork.trans hrun
    rw [hwork]
    exact .of_ok (a := ()) rfl ⟨es, rfl⟩

/-- What it takes for the keys that convert numbers while the dialog is closed: the step of the format,
    the next literal, the previous one, and the dialog. -/
theorem press_returnsIff (he : e.isConverting = false) (h : e.document? = some d)
    (hin : d.CursorInside) (another : Int) :
    ReturnsIff (AllFit e.session.format.next d.text) (e.press 20 another).result ∧
      ReturnsIff (AllReadable d.text) (e.press 14 another).result ∧
      ReturnsIff (AllReadable d.text) (e.press 16 another).result ∧
      ReturnsIff (Searchable d.text d.cursor) (e.press 18 another).result := by
  have hnext : (∃ found, Navigation.afterCursor? d = .ok found) ↔ AllReadable d.text := by
    rw [Navigation.afterCursor?, exists_map_iff, Navigation.literals, exists_scan_iff]
  have hprevious : (∃ found, Navigation.beforeCursor? d = .ok found) ↔ AllReadable d.text := by
    rw [Navigation.beforeCursor?, exists_map_iff, Navigation.literals, exists_scan_iff]
  refine ⟨?_, ?_, ?_, ?_⟩
  · rw [result_press_command he h another (c := .toggleFormat) (by decide) rfl]
    exact (toggleFormat_returnsIff h hin).map _
  · rw [result_press_command he h another (c := .next) (by decide) rfl]
    exact (jump_returnsIff h hnext).map _
  · rw [result_press_command he h another (c := .previous) (by decide) rfl]
    exact (jump_returnsIff h hprevious).map _
  · rw [result_press_command he h another (c := .convert) (by decide) rfl]
    exact (startConvert_returnsIff h).map _

/-- The enter key in the dialog carries the request out. -/
theorem press_enter_returnsIff {l : Literal} (ht : e.dialog.target = some l)
    (h : e.document? = some d) (hl : l ∈ okPart (Literal.readAll d.text)) (hin : d.CursorInside)
    (another : Int) : ReturnsIff ((e.dialog.policy l).Feasible e.session.guard d.text)
      (e.press 10 another).result := by
  have he : e.isConverting = true := by rw [isConverting, ht, Option.isSome_some]
  have hresult : (e.press 10 another).result = e.executeConvert.result.map fun _ => true := by
    rw [press, if_pos he, pressInDialog, if_pos rfl]
    unfold Attempt.andThen
    cases e.executeConvert.result <;> rfl
  rw [hresult]
  exact (executeConvert_returnsIff ht h hl hin).map _

/-- The keys that convert numbers do nothing in the dialog, but for the one that carries it out. -/
theorem press_in_dialog (he : e.isConverting = true) (another : Int) :
    ∀ k ∈ [20, 14, 16, 18], e.press k another = .done e true := by
  intro k hk
  rw [press, if_pos he]
  simp only [List.mem_cons, List.not_mem_nil, or_false] at hk
  rcases hk with rfl | rfl | rfl | rfl <;> rfl

/-- Without a document they do nothing at all. -/
theorem press_empty (he : e.isConverting = false) (h : e.document? = none) (another : Int) :
    ∀ k ∈ [20, 14, 16, 18], e.press k another = .done e true := by
  intro k hk
  have hescape : k ≠ escape := by
    rintro rfl
    exact absurd hk (by decide)
  rw [press, he, h, if_neg Bool.false_ne_true, if_neg hescape]

/-! ## Numbers that can all be converted -/

/-- All lines of a text can be read if the text can. -/
theorem allReadable_of_mem_lines {ls : List Text} (h : AllReadable (Text.unlines ls)) {l : Text}
    (hl : l ∈ ls) : AllReadable l := by
  intro s hs
  have htexts := @Literal.map_spellings_unlines _ ls Literal.Spelling.text
    (fun _ => Literal.Spelling.text) fun _ _ _ _ _ _ => rfl
  have hmem : s.text ∈ (spellings (Text.unlines ls)).map Literal.Spelling.text := by
    rw [htexts, List.mem_flatten]
    obtain ⟨i, hi, hget⟩ := List.getElem_of_mem hl
    refine ⟨(spellings l).map Literal.Spelling.text, ?_, List.mem_map_of_mem hs⟩
    exact List.mem_map.2 ⟨(l, i), List.mem_zipIdx_iff_getElem?.2 (by simp [hi, hget]), rfl⟩
  obtain ⟨s', hs', htext⟩ := List.mem_map.1 hmem
  exact htext ▸ h s' hs'

theorem allReadable_lineOrEmpty (h : AllReadable d.text) (i : Int) :
    AllReadable (lineOrEmpty d.lines i) := by
  unfold lineOrEmpty
  split
  · exact allReadable_nil
  · rw [List.getD_eq_getElem?_getD]
    cases hget : d.lines[i.toNat]? with
    | none => exact allReadable_nil
    | some l => exact allReadable_of_mem_lines h (List.mem_of_getElem? hget)

/-- The literals in front of the first that cannot be read have values that can be written. -/
theorem lt_of_mem_okPart {t : Text} (h : AllFit .decimal t) {l : Literal}
    (hl : l ∈ okPart (Literal.readAll t)) : l.value < 10 ^ digitLimit := by
  have hmem := mem_of_mem_okPart hl
  rw [Literal.readAll_eq] at hmem
  obtain ⟨s, hs, hsl⟩ := List.mem_map.1 hmem
  obtain ⟨n, hn, hwrite⟩ := (Numeral.fits_iff (isNumeral_of_mem_spellings hs)).1 (h s hs)
  rw [hn] at hsl
  obtain rfl := Except.ok.inj hsl
  exact hwrite rfl

theorem drawable_of_allFit (h : AllFit .decimal d.text) : e.Drawable d := by
  refine ⟨fun _ => h, fun r _ => allReadable_lineOrEmpty h.allReadable r.2,
    h.allReadable.searchable d.cursor, fun l hl => ?_⟩
  exact lt_of_mem_okPart h (Literal.mem_of_firstTouching hl).1

theorem feasible_of_allFit {t : Text} (h : AllFit .decimal t) {l : Literal}
    (hl : l ∈ okPart (Literal.readAll t)) (g : Dialog) (guard : Guard) :
    (g.policy l).Feasible guard t := by
  have hall : ∀ s ∈ spellings t, ∃ n, Numeral.worth s.text = .ok n ∧
      ∀ b, Numeral.Writable b n := by
    intro s hs
    obtain ⟨n, hn, hwrite⟩ := (Numeral.fits_iff (isNumeral_of_mem_spellings hs)).1 (h s hs)
    exact ⟨n, hn, fun _ _ => hwrite rfl⟩
  unfold Policy.Feasible Dialog.policy
  cases g.reach with
  | this => exact fun _ => lt_of_mem_okPart h hl
  | sameSpelling | sameValue =>
    intro s hs
    obtain ⟨n, hn, hwrite⟩ := hall s hs
    exact ⟨n, hn, fun _ _ => hwrite _⟩

/-! ## Every state -/

namespace Orderly

theorem exists_document (h : e.Orderly) (hne : e.documents ≠ []) :
    ∃ d, e.document? = some d ∧ d.CursorInside := by
  obtain ⟨hlow, hhigh⟩ := h.active hne
  have hlt : e.active.toNat < e.documents.length := by omega
  refine ⟨e.documents[e.active.toNat], ?_, h.inside _ (List.getElem_mem hlt)⟩
  rw [document?, if_neg (Int.not_lt.2 hlow), List.getElem?_eq_getElem hlt]

/-- The dialog needs a document to be open. -/
theorem not_converting (h : e.Orderly) (hnone : e.document? = none) : e.isConverting = false := by
  rw [isConverting, Option.isSome_eq_false_iff, Option.isNone_iff_eq_none]
  by_contra htarget
  obtain ⟨l, hl⟩ := Option.ne_none_iff_exists'.1 htarget
  obtain ⟨d, hd, -, -⟩ := h.current l hl
  cases hnone.symm.trans hd

/-- The target of the dialog is one of the literals that are read in the active document. -/
theorem exists_target (h : e.Orderly) (he : e.isConverting = true) (hd : e.document? = some d) :
    ∃ l, e.dialog.target = some l ∧ l ∈ okPart (Literal.readAll d.text) := by
  obtain ⟨l, hl⟩ := Option.isSome_iff_exists.1 he
  obtain ⟨d', hd', hmem, -⟩ := h.current l hl
  obtain rfl : d = d' := Option.some.inj (hd.symm.trans hd')
  exact ⟨l, hl, hmem⟩

/-- **Numbers that can all be converted**, in the active document, keep everything from failing. -/
theorem returns_of_allFit (h : e.Orderly) (hd : e.document? = some d) (hfit : AllFit .decimal d.text) :
    (∀ lexers, ∃ a, (e.refresh lexers).result = .ok a) ∧ ∀ another,
      (∀ k ∈ [20, 14, 16, 18], ∃ a, (e.press k another).result = .ok a) ∧
      (e.isConverting = true → ∃ a, (e.press 10 another).result = .ok a) := by
  have hin : d.CursorInside := h.inside d (mem_of_document? hd)
  have hread : AllReadable d.text := hfit.allReadable
  cases he : e.isConverting with
  | true =>
    refine ⟨fun lexers => ⟨(), refresh_dialog he hd⟩, fun another => ⟨fun k hk => ?_, fun _ => ?_⟩⟩
    · rw [press_in_dialog he another k hk]
      exact ⟨true, rfl⟩
    · obtain ⟨l, hl, hmem⟩ := h.exists_target he hd
      exact (press_enter_returnsIff hl hd hmem hin another).ok_iff.2 (feasible_of_allFit hfit hmem _ _)
  | false =>
    have hdraw : ∀ lexers, ∃ a, (e.refresh lexers).result = .ok a := fun _ =>
      (refresh_returnsIff he hd hin).ok_iff.2 (drawable_of_allFit hfit)
    refine ⟨hdraw, fun another => ⟨?_, nofun⟩⟩
    obtain ⟨hformat, hnext, hprevious, hconvert⟩ := press_returnsIff he hd hin another
    simp only [List.forall_mem_cons]
    exact ⟨hformat.ok_iff.2 (hfit.of_decimal _), hnext.ok_iff.2 hread, hprevious.ok_iff.2 hread,
      hconvert.ok_iff.2 (hread.searchable _), nofun⟩

end Orderly

/-- **Nothing fails but for a number.**  Documents are opened on a screen that is large enough, perhaps
    with a message about a new one, and then keys are pressed, the windows are drawn, the clock goes on,
    and the screen changes its size but never becomes too small, in any order and however long.

    Then there is no document and nothing to fail, or one is active.  With the dialog closed, drawing
    fails for a number that cannot be read in a line that is shown or in front of the cursor, or cannot
    be written in the panel or among the remarks, and for nothing else; the step of the format fails for
    a number that cannot be read or written in the next base; and the keys that go to the next and the
    previous literal, and the one that opens the dialog, fail for a number that they come to and cannot
    read.  With the dialog open nothing fails but the key that carries it out, and that for a number
    which its policy cannot read or write.  In all these cases the failure is handed on.  This is said of
    the editor, whatever the lexers are; the calls by which the terminal draws are taken not to fail,
    which they might for a text with a null character.

    So nothing fails in a document where all literals can be read and have values that can be written in
    decimal. -/
theorem fails_for_numbers_only {session : Session} {world : World} {height width : Int}
    (hstart : start session world height width = .ok e) {ds : List Document}
    (hds : ∀ d ∈ ds, d.Opened) (created : Option String) {turns : List Turn}
    (hroom : ∀ t ∈ turns, LeavesRoom t) :
    let e' := (e.openAll created ds).turnAll turns
    (e'.documents = [] ∧ e'.isConverting = false ∧
      (∀ lexers, (e'.refresh lexers).result = .ok ()) ∧
      ∀ another, ∀ k ∈ [20, 14, 16, 18], e'.press k another = .done e' true) ∨
    ∃ d, e'.document? = some d ∧
      (e'.isConverting = false →
        (∀ lexers, ReturnsIff (e'.Drawable d) (e'.refresh lexers).result) ∧ ∀ another,
        ReturnsIff (AllFit e'.session.format.next d.text) (e'.press 20 another).result ∧
        ReturnsIff (AllReadable d.text) (e'.press 14 another).result ∧
        ReturnsIff (AllReadable d.text) (e'.press 16 another).result ∧
        ReturnsIff (Searchable d.text d.cursor) (e'.press 18 another).result) ∧
      (e'.isConverting = true → (∀ lexers, (e'.refresh lexers).result = .ok ()) ∧ ∀ another,
        (∀ k ∈ [20, 14, 16, 18], e'.press k another = .done e' true) ∧
        ∃ l, e'.dialog.target = some l ∧
          ReturnsIff ((e'.dialog.policy l).Feasible e'.session.guard d.text)
            (e'.press 10 another).result) ∧
      (AllFit .decimal d.text → (∀ lexers, ∃ a, (e'.refresh lexers).result = .ok a) ∧ ∀ another,
        (∀ k ∈ [20, 14, 16, 18], ∃ a, (e'.press k another).result = .ok a) ∧
        (e'.isConverting = true → ∃ a, (e'.press 10 another).result = .ok a)) := by
  intro e'
  obtain ⟨horderly, hclosed⟩ := Orderly.start hstart
  have h : e'.Orderly := (horderly.openAll hclosed created hds).turnAll hroom
  generalize e' = e at h ⊢
  by_cases hne : e.documents = []
  · left
    have hnone : e.document? = none := by
      unfold document?
      rw [hne]
      split <;> rfl
    have he : e.isConverting = false := h.not_converting hnone
    exact ⟨hne, he, fun _ => refresh_empty he hne, press_empty he hnone⟩
  · right
    obtain ⟨d, hd, hin⟩ := h.exists_document hne
    refine ⟨d, hd, fun he => ?_, fun he => ?_, h.returns_of_allFit hd⟩
    · exact ⟨fun _ => refresh_returnsIff he hd hin, press_returnsIff he hd hin⟩
    · refine ⟨fun _ => refresh_dialog he hd, fun another => ⟨press_in_dialog he another, ?_⟩⟩
      obtain ⟨l, hl, hmem⟩ := h.exists_target he hd
      exact ⟨l, hl, press_enter_returnsIff hl hd hmem hin another⟩

/-- A document with three numbers, on a screen that changes its size after a step of the format. -/
theorem fails_for_numbers_only_three_numbers :
    let e : Editor := { onDocument (.ofText []) with documents := [] }
    let ds := [Document.ofText "a 0x10\n7 9".toList]
    let lexers : Document → Highlight.Lexer := fun _ line => [(["Comment"], line)]
    let turns : List Turn := [.refresh lexers, .press 20 0, .resize 24 80, .press 258 0]
    start e.session e.world 16 40 = .ok e ∧ (∀ d ∈ ds, d.Opened) ∧ (∀ t ∈ turns, LeavesRoom t) ∧
      ∃ d, ((e.openAll (some "f") ds).turnAll turns).document? = some d ∧
        d.text = "a 0b10000\n0b111 0b1001".toList ∧
        (∃ a, (((e.openAll (some "f") ds).turnAll turns).refresh lexers).result = .ok a) ∧
        ∀ k ∈ [20, 14, 16, 18], ∃ a,
          (((e.openAll (some "f") ds).turnAll turns).press k 0).result = .ok a := by
  intro e ds lexers turns
  have hstart : start e.session e.world 16 40 = .ok e := rfl
  have hopened : ∀ d ∈ ds, d.Opened := by
    intro d hd
    obtain rfl := List.mem_singleton.1 hd
    exact .fresh _
  have hroom : ∀ t ∈ turns, LeavesRoom t := by
    simp only [turns, List.forall_mem_cons]
    exact ⟨trivial, trivial, rfl, trivial, nofun⟩
  have hactive : ((e.openAll (some "f") ds).turnAll turns).document?.map Document.text =
      some "a 0b10000\n0b111 0b1001".toList := by
    decide +kernel
  have hfit : AllFit .decimal "a 0b10000\n0b111 0b1001".toList := by
    have hes : cycleEdits .decimal "a 0b10000\n0b111 0b1001".toList =
        .ok [⟨2, 9, "16".toList⟩, ⟨10, 15, "7".toList⟩, ⟨16, 22, "9".toList⟩] := by
      decide +kernel
    exact exists_cycleEdits_iff.1 ⟨_, hes⟩
  rcases fails_for_numbers_only hstart hopened (some "f") hroom with ⟨hnone, -⟩ | ⟨d, hd, -, -, hreturns⟩
  · exact absurd hnone (by decide +kernel)
  · rw [hd] at hactive
    have htext : d.text = "a 0b10000\n0b111 0b1001".toList := Option.some.inj hactive
    obtain ⟨hdraw, hkeys⟩ := hreturns (htext ▸ hfit)
    exact ⟨hstart, hopened, hroom, d, hd, htext, hdraw lexers, (hkeys 0).1⟩

/-- One number that is too long, in a document that has only just been opened on the smallest screen,
    makes the first drawing fail, and all of these keys. -/
theorem fails_on_ones :
    let e : Editor := { onDocument (.ofText []) with documents := [] }
    let e' := e.openAll none [.ofText ones]
    start e.session e.world 16 40 = .ok e ∧ (Document.ofText ones).Opened ∧
      (∀ lexers, ∃ n, (e'.refresh lexers).result = .error (.numeral n)) ∧
      ∀ k ∈ [20, 14, 16, 18], ∃ n, (e'.press k 0).result = .error (.numeral n) := by
  intro e e'
  have hopened : (Document.ofText ones).Opened := .fresh ones
  have hin : (Document.ofText ones).CursorInside := hopened.sound.inside
  have hd : e'.document? = some (.ofText ones) := rfl
  have htext : (Document.ofText ones).text = ones := Document.text_ofText ones
  obtain ⟨hformat, hnext, hprevious, hconvert⟩ := press_returnsIff (e := e') rfl hd hin 0
  rw [htext] at hformat hnext hprevious hconvert
  refine ⟨rfl, hopened, ?_, ?_⟩
  · intro lexers
    refine (refresh_returnsIff (e := e') rfl hd hin).exists_error fun h => ?_
    have hsearch := h.search
    rw [htext] at hsearch
    exact not_searchable_ones _ hsearch
  · simp only [List.forall_mem_cons]
    exact ⟨hformat.exists_error (not_allFit_ones _), hnext.exists_error not_allReadable_ones,
      hprevious.exists_error not_allReadable_ones, hconvert.exists_error (not_searchable_ones _), nofun⟩

end Editor

end Respell
