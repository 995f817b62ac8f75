/-
  Pages on screens of every size.

  A page has as many rows as the window for the code, which has 13 rows less than the screen.  A screen
  that is too small is told so to the user, but the keys go on working, and on a screen of fewer than 13
  rows the number of rows of a page is negative.  Then the page keys go the wrong way, and each of them
  is held back at the end of the document that it would otherwise run into, and not at the other one.

  1. **Turning a page** (`press_page_up`, `press_page_down`) on a screen of any height.

  2. **Every run** (`pages_inside_document`).  As long as no page is turned on a screen of fewer than 13
     rows, whatever else happens there, all cursors stay inside and the page keys go the right way.
-/
import Respell.Proofs.Turns

namespace Respell.Editor

variable {e : Editor} {d : Document}

theorem pageHeight_nonneg_iff : 0 ≤ e.pageHeight ↔ 13 ≤ e.height := by
  unfold pageHeight codeHeight panelHeight
  omega

/-! ## Turning a page -/

theorem press_page_up (he : e.isConverting = false) (h : e.document? = some d) (another : Int) :
    ∃ goesOn, e.press 339 another = .done (e.setDocument (d.pageUp e.pageHeight)) goesOn :=
  press_command he h another (by decide) (c := .pageUp) rfl (move_eq_done h _)

theorem press_page_down (he : e.isConverting = false) (h : e.document? = some d) (another : Int) :
    ∃ goesOn, e.press 338 another = .done (e.setDocument (d.pageDown e.pageHeight)) goesOn :=
  press_command he h another (by decide) (c := .pageDown) rfl (move_eq_done h _)

/-- The lines that the page keys lead to from a line of the document. -/
theorem line_of_page (h : d.CursorInside) (height : Int) :
    (13 ≤ height → 0 ≤ (d.pageUp (codeHeight height)).line ∧
      (d.pageUp (codeHeight height)).line ≤ d.line ∧
      d.line ≤ (d.pageDown (codeHeight height)).line ∧
      (d.pageDown (codeHeight height)).line < d.lines.length) ∧
    (height < 13 → (d.pageUp (codeHeight height)).line = d.line + (13 - height) ∧
      (d.pageDown (codeHeight height)).line = d.line - (13 - height)) := by
  have hlow := h.line_nonneg
  have hhigh := h.line_lt
  have hup : (d.pageUp (codeHeight height)).line = max 0 (d.line - (height - 3 - 10)) := rfl
  have hdown : (d.pageDown (codeHeight height)).line =
      min ((d.lines.length : Int) - 1) (d.line + (height - 3 - 10)) := rfl
  rw [hup, hdown]
  constructor
  · intro hrows
    omega
  · intro hrows
    omega

/-- In the dialog the page keys do nothing. -/
theorem press_page_in_dialog (he : e.isConverting = true) (another : Int) :
    e.press 339 another = .done e true ∧ e.press 338 another = .done e true := by
  rw [press, press, if_pos he, if_pos he]
  exact ⟨rfl, rfl⟩

/-! ## Every run -/

/-- Whether a turn, if it turns a page, finds a screen of at least 13 rows. -/
def Roomy (e : Editor) : Turn → Prop
  | .press k _ => e.turnsPage k = true → 13 ≤ e.height
  | _ => True

/-- Whether each page in a run is turned on a screen of at least 13 rows. -/
def AllRoomy : Editor → List Turn → Prop
  | _, [] => True
  | e, t :: turns => e.Roomy t ∧ AllRoomy (e.turn t) turns

/-- **One turn** keeps all cursors inside, unless it turns a page on too few rows. -/
theorem inside_turn (hin : ∀ d ∈ e.documents, d.CursorInside) {t : Turn} (ht : e.Roomy t) :
    ∀ d ∈ (e.turn t).documents, d.CursorInside := by
  cases t with
  | press k another =>
    obtain ⟨rows, hrows, htouches⟩ : ∃ rows, 0 ≤ rows ∧ Touches rows e (e.press k another).state := by
      by_cases hturns : e.turnsPage k = true
      · exact ⟨e.pageHeight, pageHeight_nonneg_iff.2 (ht hturns), touches_press e k another⟩
      · -- the height of the screen plays no part
        exact ⟨0, Int.le_refl 0, touches_press_rows k another fun h => absurd h hturns⟩
    exact htouches.forall_documents (fun _ _ hd hpressed => hd.pressed hrows hpressed) hin
  | resize height width =>
    show ∀ d ∈ (e.resize height width).documents, d.CursorInside
    rwa [(sameWork_resize height width).documents]
  | refresh lexers =>
    show ∀ d ∈ (e.refresh lexers).state.documents, d.CursorInside
    rwa [(sameWork_refresh lexers).1.documents]
  | outside world notes => exact hin

/-- **A run** keeps them inside. -/
theorem inside_turnAll {turns : List Turn} (hin : ∀ d ∈ e.documents, d.CursorInside)
    (hroomy : e.AllRoomy turns) : ∀ d ∈ (e.turnAll turns).documents, d.CursorInside := by
  induction turns generalizing e with
  | nil => exact hin
  | cons t turns ih => exact ih (inside_turn hin hroomy.1) hroomy.2

/-- **Pages on screens of every size.**  An editor, whose cursors stand inside their documents, takes
    keys and follows the terminal to any size, but turns no page on a screen of fewer than 13 rows.  Then
    all cursors still stand inside, and this is what the page keys do then to the active document: on at
    least 13 rows they go up and down, and stay inside; on fewer they go the other way, down and up, by
    as many lines as there are rows missing, whether the document has these lines or not.  In the dialog
    they do nothing. -/
theorem pages_inside_document (hin : ∀ d ∈ e.documents, d.CursorInside) (turns : List Turn)
    (hroomy : e.AllRoomy turns) :
    let e' := e.turnAll turns
    (∀ d ∈ e'.documents, d.CursorInside) ∧
      ∀ d, e'.document? = some d → ∀ another,
        (e'.isConverting = false → ∃ up down goesOn goesOn',
          e'.press 339 another = .done (e'.setDocument up) goesOn ∧
          e'.press 338 another = .done (e'.setDocument down) goesOn' ∧
          (e'.setDocument up).document? = some up ∧ (e'.setDocument down).document? = some down ∧
          up.lines = d.lines ∧ down.lines = d.lines ∧
          (13 ≤ e'.height → 0 ≤ up.line ∧ up.line ≤ d.line ∧
            d.line ≤ down.line ∧ down.line < d.lines.length) ∧
          (e'.height < 13 → up.line = d.line + (13 - e'.height) ∧
            down.line = d.line - (13 - e'.height))) ∧
        (e'.isConverting = true →
          e'.press 339 another = .done e' true ∧ e'.press 338 another = .done e' true) := by
  intro e'
  have hin' : ∀ d ∈ e'.documents, d.CursorInside := inside_turnAll hin hroomy
  refine ⟨hin', fun d hd another => ⟨fun hclosed => ?_, fun he => press_page_in_dialog he another⟩⟩
  obtain ⟨goesOn, hup⟩ := press_page_up hclosed hd another
  obtain ⟨goesOn', hdown⟩ := press_page_down hclosed hd another
  obtain ⟨hright, hwrong⟩ := line_of_page (hin' d (mem_of_document? hd)) e'.height
  exact ⟨_, _, goesOn, goesOn', hup, hdown, document?_setDocument hd _, document?_setDocument hd _,
    rfl, rfl, hright, hwrong⟩

/-- The terminal becomes too small, a key is pressed, and the terminal becomes a little larger. -/
theorem pages_inside_document_resized :
    let e := onDocument (.ofText ['a', '\n', 'b', '\n', 'c'])
    let turns : List Turn := [.resize 10 80, .press 258 0, .resize 14 80]
    (∀ d ∈ e.documents, d.CursorInside) ∧ e.AllRoomy turns ∧
      ∃ d up down goesOn goesOn', (e.turnAll turns).document? = some d ∧ d.line = 1 ∧
        (e.turnAll turns).press 339 0 = .done ((e.turnAll turns).setDocument up) goesOn ∧
        (e.turnAll turns).press 338 0 = .done ((e.turnAll turns).setDocument down) goesOn' ∧
        0 ≤ up.line ∧ up.line ≤ 1 ∧ 1 ≤ down.line ∧ down.line < d.lines.length := by
  intro e turns
  have hin : ∀ d ∈ e.documents, d.CursorInside := by
    intro d hd
    obtain rfl := List.mem_singleton.1 hd
    exact (Document.Opened.fresh _).sound.inside
  have hkey : (e.resize 10 80).turnsPage 258 = false := by decide
  have hroomy : e.AllRoomy turns :=
    ⟨trivial, fun h => absurd h (Bool.eq_false_iff.1 hkey), trivial, trivial⟩
  have hactive : (e.turnAll turns).document?.map Document.line = some 1 := by decide +kernel
  obtain ⟨d, hd, hline⟩ := Option.map_eq_some_iff.1 hactive
  obtain ⟨-, hpages⟩ := pages_inside_document hin turns hroomy
  obtain ⟨up, down, goesOn, goesOn', hup, hdown, -, -, -, -, hright, -⟩ :=
    (hpages d hd 0).1 (by decide +kernel)
  obtain ⟨hlow, hle, hge, hhigh⟩ := hright (by decide +kernel)
  rw [hline] at hle hge
  exact ⟨hin, hroomy, d, up, down, goesOn, goesOn', hd, hline, hup, hdown, hlow, hle, hge, hhigh⟩

/-- In a document of one line on a screen of ten rows both page keys leave the document, in the wrong
    direction. -/
theorem pages_leave_document :
    let e := (onDocument (.ofText ['x'])).resize 10 80
    (∀ d ∈ e.documents, d.CursorInside ∧ d.line = 0 ∧ d.lines.length = 1) ∧
      (e.press 339 0).state.document?.map Document.line = some 3 ∧
      (e.press 338 0).state.document?.map Document.line = some (-3) := by
  intro e
  refine ⟨fun d hd => ?_, by decide +kernel, by decide +kernel⟩
  obtain rfl := List.mem_singleton.1 hd
  exact ⟨(Document.Opened.fresh _).sound.inside, rfl, rfl⟩

end Respell.Editor
