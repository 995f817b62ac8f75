/-
  The dialog is about what stands there.

  The dialog keeps the literal that it was opened for, and when it carries its request out it replaces
  the span of that literal without a look at the text.  This file proves that nothing can have happened
  to the text in between, whatever keys are pressed.

  1. **The invariant** (`Editor.Current`): while the dialog is open, its target is one of the literals
     that are read in the active document as it is now, and the cursor touches it.

  2. **One step.**  Commands leave the dialog alone, but for the one that opens it for what it has just
     found (`Current.startConvert`).  Keys in the dialog leave the documents alone, but for the one that
     carries the request out, and that one closes it first (`target_executeConvert`).

  3. **Edits are never refused.**  The span of a literal that is read lies in the text, and literals
     that are found together make a good edit set, so that only a number which cannot be converted
     stands in the way of a request or of a pass (`Session.error_of_applyMade`).

  4. **What is noted.**  A failure of edits would not end a key; it would be caught and noted as a
     warning.  No key notes such a warning (`noted_press`).
-/
import Respell.Proofs.CursorKept
import Respell.Proofs.Grammar
import Respell.Proofs.Selection

namespace Respell

open Literal (readAll)
open Numeral (worth)

/-- The values in front of the first failure are values of the list. -/
theorem mem_of_mem_okPart {ε α : Type} {a : α} :
    ∀ {xs : List (Except ε α)}, a ∈ okPart xs → .ok a ∈ xs
  | .ok b :: xs, h => by
    rw [okPart] at h
    rcases List.mem_cons.1 h with rfl | h
    · exact List.mem_cons_self
    · exact List.mem_cons_of_mem _ (mem_of_mem_okPart h)

namespace Literal

variable {t : Text} {l : Literal}

/-! ## Literals that are read -/

/-- What a search finds is one of the literals in front of the first that cannot be read, and it
    touches the offset. -/
theorem mem_of_firstTouching {offset : Int} :
    ∀ {xs : List (Except NumeralError Literal)}, firstTouching offset xs = .ok (some l) →
      l ∈ okPart xs ∧ l.touches offset = true
  | .ok l' :: xs, h => by
    rw [firstTouching] at h
    split at h
    · cases h
    · split at h
      · rename_i htouches
        obtain rfl := Option.some.inj (Except.ok.inj h)
        exact ⟨List.mem_cons_self, htouches⟩
      · obtain ⟨hmem, htouches⟩ := mem_of_firstTouching h
        exact ⟨List.mem_cons_of_mem _ hmem, htouches⟩

/-- A literal that is read stands in the text where it says. -/
theorem exists_around_of_mem_readAll (h : l ∈ okPart (readAll t)) :
    ∃ u x, t = u ++ (l.spelling ++ x) ∧ l.start = u.length := by
  have hmem := mem_of_mem_okPart h
  rw [readAll_eq] at hmem
  obtain ⟨s, hs, hsl⟩ := List.mem_map.1 hmem
  obtain ⟨u, x, hsplit, hstart, -, -⟩ := exists_around_of_mem hs
  cases hn : worth s.text with
  | error e => rw [hn] at hsl; cases hsl
  | ok n =>
    rw [hn] at hsl
    obtain rfl := Except.ok.inj hsl
    exact ⟨u, x, hsplit, hstart.trans (Nat.zero_add _)⟩

/-- **A literal that is read can be replaced**, and the text in front of it and behind it stays. -/
theorem applyAll_span (h : l ∈ okPart (readAll t)) (r : Text) :
    Edit.applyAll t [⟨l.start, l.stop, r⟩] = .ok (t.take l.start ++ r ++ t.drop l.stop) := by
  obtain ⟨u, x, rfl, hstart⟩ := exists_around_of_mem_readAll h
  have hstop : l.stop = (u ++ l.spelling).length := by rw [stop, hstart, List.length_append]
  -- what is in front of the literal is the gap of a single piece, and what is behind it is the rest
  have happly : Edit.applyAll (Piece.fill x [⟨u, l.spelling⟩])
      (Piece.replacements 0 [⟨u, l.spelling⟩] [r]) = .ok (Piece.fill x [⟨u, r⟩]) :=
    Piece.applyAll_replacements x rfl
  rw [Piece.replacements, Nat.zero_add, ← List.length_append, ← hstop, ← hstart] at happly
  rw [hstop, hstart, List.take_left, ← List.append_assoc u, List.drop_left, List.append_assoc u,
    List.append_assoc u]
  rwa [hstop, hstart] at happly

end Literal

namespace Document

variable {d : Document} {es : List Edit}

/-- A good edit set is carried out where the cursor stands inside. -/
theorem exists_applyEdits {u : Text} (h : d.CursorInside) (hu : Edit.applyAll d.text es = .ok u) :
    ∃ d', d.applyEdits es = .done d' es.length ∧ d'.text = u := by
  cases es with
  | nil => exact ⟨d, rfl, Except.ok.inj hu⟩
  | cons e es =>
    exact ⟨_, applyEdits_eq_done h.line_nonneg (List.cons_ne_nil e es) hu, Text.unlines_lines u⟩

end Document

/-! ## Edits are never refused -/

/-- The edits of a pass are good in every text. -/
theorem exists_applyAll_of_pass {b : Base} {t : Text} {es : List Edit} (h : cycleEdits b t = .ok es) :
    ∃ u, Edit.applyAll t es = .ok u := by
  obtain ⟨ps, last, rfl, hlaid⟩ := Piece.exists_laid false 0 t
  rw [cycleEdits_eq, Literal.spellings, hlaid.spellingsFrom 0, Piece.allOf_places] at h
  cases hrs : Piece.respelled b ps with
  | error n => rw [hrs] at h; cases h
  | ok rs =>
    rw [hrs] at h
    obtain rfl := Except.ok.inj h
    exact ⟨_, Piece.applyAll_replacements last (Piece.length_respelled hrs)⟩

namespace Session

variable {s : Session} {d : Document} {made : Except NumeralError (List Edit)}

theorem exists_applyMade {es : List Edit} {u : Text} (h : d.CursorInside)
    (hu : Edit.applyAll d.text es = .ok u) :
    ∃ d', applyMade d (.ok es) = .done d' es.length ∧ d'.text = u := by
  obtain ⟨d', hrun, htext⟩ := Document.exists_applyEdits h hu
  refine ⟨d', ?_, htext⟩
  rw [applyMade, hrun]
  rfl

/-- Edits that are good if they can be made fail only where they cannot. -/
theorem error_of_applyMade (h : d.CursorInside)
    (hgood : ∀ es, made = .ok es → ∃ u, Edit.applyAll d.text es = .ok u) {x : Failure}
    (hx : (applyMade d (made.mapError .numeral)).result = .error x) : ∃ n, x = .numeral n := by
  cases made with
  | error n => exact ⟨n, (Except.error.inj hx).symm⟩
  | ok es =>
    obtain ⟨u, hu⟩ := hgood es rfl
    obtain ⟨d', hrun, -⟩ := exists_applyMade h hu
    rw [Except.mapError, hrun] at hx
    cases hx

/-- **A pass** fails only for a number that cannot be converted. -/
theorem error_of_respellAll (h : d.CursorInside) {x : Failure}
    (hx : (s.respellAll d).result = .error x) : ∃ n, x = .numeral n :=
  error_of_applyMade h (fun _ => exists_applyAll_of_pass) hx

end Session

/-! ## The request of the dialog -/

namespace Dialog

/-- The policy that a dialog means when it is about a literal. -/
def policy (g : Dialog) (l : Literal) : Policy :=
  match g.reach with
  | .this => ⟨g.base, .single, .spelling, l.spelling, l.start, l.stop, l.value⟩
  | .sameSpelling => ⟨g.base, .all, .spelling, l.spelling, 0, l.spelling.length, l.value⟩
  | .sameValue => ⟨g.base, .all, .value, l.spelling, 0, l.spelling.length, l.value⟩

/-- Whatever the dialog means, its edits are good where its literal stands. -/
theorem exists_applyAll_of_edits {g : Dialog} {l : Literal} {t : Text} (h : l ∈ okPart (readAll t))
    {guard : Guard} {es : List Edit} (hes : (g.policy l).edits guard t = .ok es) :
    ∃ u, Edit.applyAll t es = .ok u := by
  unfold policy at hes
  cases hreach : g.reach with
  | this =>
    -- a single edit, made for the literal that the dialog keeps and not for one found now
    rw [hreach, Policy.edits] at hes
    dsimp only at hes
    cases hs : Numeral.write g.base l.value with
    | error n => rw [hs] at hes; cases hes
    | ok s =>
      rw [hs] at hes
      obtain rfl := Except.ok.inj hes
      exact ⟨_, Literal.applyAll_span h s⟩
  | sameSpelling =>
    rw [hreach] at hes
    exact Policy.exists_applyAll_of_edits rfl hes
  | sameValue =>
    rw [hreach] at hes
    exact Policy.exists_applyAll_of_edits rfl hes

end Dialog

namespace Editor

variable {e : Editor} {d : Document} {l : Literal} {r : Request}

/-- The request of the dialog is always one with a policy. -/
theorem policy_of_request (h : e.dialog.target = some l) (hr : e.request? = some r) (t : Text)
    (cursor : Option Int) : r.policy t cursor = .ok (some (e.dialog.policy l)) := by
  rw [request?, h, Option.map_some] at hr
  obtain rfl := Option.some.inj hr
  unfold Request.policy Dialog.policy
  dsimp only
  rw [Base.ofCode_code]
  cases e.dialog.reach <;> rfl

/-- Carrying the request of a dialog out is applying the edits of the policy that it means. -/
theorem replace_eq (h : e.dialog.target = some l) (hr : e.request? = some r) (s : Session)
    (d : Document) : s.replace d r =
      Session.applyMade d (((e.dialog.policy l).edits s.guard d.text).mapError .numeral) :=
  Session.replace_of_policy (policy_of_request h hr d.text d.cursor)

/-- **A request** fails only for a number that cannot be converted. -/
theorem error_of_replace (h : e.dialog.target = some l) (hl : l ∈ okPart (readAll d.text))
    (hin : d.CursorInside) (hr : e.request? = some r) {s : Session} {x : Failure}
    (hx : (s.replace d r).result = .error x) : ∃ n, x = .numeral n := by
  rw [replace_eq h hr] at hx
  exact Session.error_of_applyMade hin (fun _ => Dialog.exists_applyAll_of_edits hl) hx

/-- **The enter key**, if the dialog is about its literal alone: the number stands there in the base
    that is chosen, or it cannot be written and nothing changes. -/
theorem press_enter (h : e.dialog.target = some l) (hd : e.document? = some d)
    (hl : l ∈ okPart (readAll d.text)) (hin : d.CursorInside) (hreach : e.dialog.reach = .this)
    (another : Int) :
    (∀ s, Numeral.write e.dialog.base l.value = .ok s → ∃ d',
      (e.press 10 another).result = .ok true ∧ (e.press 10 another).state.document? = some d' ∧
        d'.text = d.text.take l.start ++ s ++ d.text.drop l.stop) ∧
    ∀ n, Numeral.write e.dialog.base l.value = .error n →
      (e.press 10 another).result = .error (.numeral n) ∧
        (e.press 10 another).state.document? = some d := by
  obtain ⟨r, hr⟩ : ∃ r, e.request? = some r := ⟨_, by rw [request?, h, Option.map_some]⟩
  have hopen : e.isConverting = true := by rw [isConverting, h, Option.isSome_some]
  have hwork := replace_eq h hr e.session d
  rw [Dialog.policy, hreach, Policy.edits] at hwork
  dsimp only at hwork
  -- the dialog is closed first, which changes no document
  have hclosed : e.closeDialog.document? = some d := hd
  rw [press, if_pos hopen, pressInDialog, if_pos rfl, executeConvert, hr]
  dsimp only
  rw [hclosed]
  dsimp only
  constructor
  · intro s hs
    obtain ⟨d', hrun, htext⟩ := Session.exists_applyMade hin (Literal.applyAll_span hl s)
    rw [hs] at hwork
    have hwork : e.closeDialog.session.replace d r = .done d' 1 := hwork.trans hrun
    rw [hwork]
    exact ⟨d', rfl, document?_setDocument hclosed d', htext⟩
  · intro n hs
    rw [hs] at hwork
    have hwork : e.closeDialog.session.replace d r = .failed d (.numeral n) := hwork
    rw [hwork]
    exact ⟨rfl, document?_setDocument hclosed d⟩

/-! ## What opens and closes the dialog -/

/-- Whether the dialog, if it is open, is about a literal of the active document that the cursor
    touches. -/
def Current (e : Editor) : Prop :=
  ∀ l, e.dialog.target = some l →
    ∃ d, e.document? = some d ∧ l ∈ okPart (readAll d.text) ∧ l.touches d.cursor = true

theorem Current.of_closed (h : e.dialog.target = none) : e.Current := by
  intro l hl
  rw [h] at hl
  cases hl

/-- Whether another editor has the same dialog and the same notes. -/
structure SameAside (e e' : Editor) : Prop where
  dialog : e'.dialog = e.dialog
  notes : e'.notes = e.notes

theorem sameAside_withDocument {f : Document → Action} (h : ∀ d, e.SameAside (f d).state) :
    e.SameAside (e.withDocument f).state := by
  unfold withDocument
  cases e.document? with
  | none => exact ⟨rfl, rfl⟩
  | some d => exact h d

theorem sameAside_stepHistory (f : Document → Attempt Document DocumentError Bool) (nothing : String) :
    e.SameAside (e.stepHistory f nothing).state := by
  refine sameAside_withDocument fun d => ?_
  dsimp only
  split <;> exact ⟨rfl, rfl⟩

theorem sameAside_save : e.SameAside e.save.state := by
  refine sameAside_withDocument fun d => ?_
  split
  · split <;> exact ⟨rfl, rfl⟩
  · exact ⟨rfl, rfl⟩
  · exact ⟨rfl, rfl⟩

theorem sameAside_jump (search : Document → Except NumeralError (Option Literal)) :
    e.SameAside (e.jump search).state := by
  refine sameAside_withDocument fun d => ?_
  split <;> exact ⟨rfl, rfl⟩

theorem sameAside_pressEscape (another : Int) : e.SameAside (e.pressEscape another) := by
  unfold pressEscape switchTo
  split
  · split
    · exact ⟨rfl, rfl⟩
    · split <;> exact ⟨rfl, rfl⟩
  · exact ⟨rfl, rfl⟩

/-- Three commands open the dialog or note something, and no other one. -/
theorem sameAside_perform {c : Command} (hconvert : c ≠ .convert) (hformat : c ≠ .toggleFormat)
    (hdecorations : c ≠ .toggleDecorations) : e.SameAside (e.perform c).state := by
  cases c with
  | convert => exact absurd rfl hconvert
  | toggleFormat => exact absurd rfl hformat
  | toggleDecorations => exact absurd rfl hdecorations
  | quit =>
    show e.SameAside e.quit
    unfold quit
    split <;> exact ⟨rfl, rfl⟩
  | save => exact sameAside_save
  | undo => exact sameAside_stepHistory _ _
  | redo => exact sameAside_stepHistory _ _
  | next => exact sameAside_jump _
  | previous => exact sameAside_jump _
  | left | right | up | down | lineStart | lineEnd | pageUp | pageDown | deleteForward | deleteBackward
    | enter | tab => exact sameAside_withDocument fun _ => ⟨rfl, rfl⟩

theorem sameAside_type (t : Text) : e.SameAside (e.change (·.type t)).state :=
  sameAside_withDocument fun _ => ⟨rfl, rfl⟩

theorem dialog_recover (x : Failure) (lead : String) : (e.recover x lead).state.dialog = e.dialog := by
  unfold recover
  split <;> rfl

theorem dialog_toggleFormat : e.toggleFormat.state.dialog = e.dialog := by
  unfold toggleFormat
  dsimp only
  split
  · rfl
  · split
    · exact dialog_recover _ _
    · rfl

theorem dialog_toggleDecorations : e.toggleDecorations.state.dialog = e.dialog := by
  unfold toggleDecorations
  dsimp only
  split
  · exact dialog_recover _ _
  · rfl

/-- One command opens the dialog, and no other one touches it. -/
theorem dialog_perform {c : Command} (hc : c ≠ .convert) : (e.perform c).state.dialog = e.dialog := by
  by_cases hformat : c = .toggleFormat
  · subst hformat
    exact dialog_toggleFormat
  · by_cases hdecorations : c = .toggleDecorations
    · subst hdecorations
      exact dialog_toggleDecorations
    · exact (sameAside_perform hc hformat hdecorations).dialog

/-- The command that opens the dialog opens it for what is there. -/
theorem Current.startConvert (h : e.Current) : e.startConvert.state.Current := by
  unfold Editor.startConvert withDocument
  cases hd : e.document? with
  | none => exact h
  | some d =>
    dsimp only
    cases hfound : Navigation.atCursor? d with
    | error x => exact h
    | ok found =>
      cases found with
      | none => exact h
      | some l =>
        intro l' hl'
        obtain rfl : l = l' := Option.some.inj hl'
        obtain ⟨hmem, htouches⟩ := Literal.mem_of_firstTouching hfound
        exact ⟨d, hd, hmem, htouches⟩

theorem target_executeConvert (e : Editor) : e.executeConvert.state.dialog.target = none := by
  unfold executeConvert
  dsimp only
  split
  · split
    · rw [dialog_recover]
      rfl
    · rfl
  · rfl

/-! ## Every key -/

theorem Current.pressInDialog (h : e.Current) (k : Int) : (e.pressInDialog k).state.Current := by
  unfold Editor.pressInDialog
  split
  · exact .of_closed (target_executeConvert e)
  · split
    · exact .of_closed rfl
    · split
      · exact h
      · split <;> exact h

/-- **One key** keeps the dialog current. -/
theorem Current.press (h : e.Current) (k another : Int) : (e.press k another).state.Current := by
  unfold Editor.press
  split
  · rw [Attempt.state_andThen_done]
    exact h.pressInDialog k
  · -- the dialog is closed, and one command alone can leave it open
    rename_i hopen
    have hclosed : e.dialog.target = none := by
      rwa [isConverting, Bool.not_eq_true, Option.isSome_eq_false_iff,
        Option.isNone_iff_eq_none] at hopen
    split
    · refine .of_closed ?_
      show (e.pressEscape another).dialog.target = none
      rw [(sameAside_pressEscape another).dialog, hclosed]
    · split
      · exact h
      · rename_i c _ _
        unfold Attempt.andThen
        by_cases hc : c = .convert
        · subst hc
          split <;> exact h.startConvert
        · have hkept : (e.perform c).state.dialog.target = none := by rw [dialog_perform hc, hclosed]
          split <;> exact .of_closed hkept
      · split
        · rw [Attempt.state_andThen_done]
          exact .of_closed (by rw [(sameAside_type _).dialog, hclosed])
        · exact h

/-- **A run** keeps it current, whatever the keys are and whether they fail or not. -/
theorem Current.pressAll (h : e.Current) (keys : List (Int × Int)) : (e.pressAll keys).Current := by
  induction keys generalizing e with
  | nil => exact h
  | cons k keys ih => exact ih (h.press k.1 k.2)

/-- Whatever the dialog is about, its request fails only for a number that cannot be converted. -/
theorem Current.error_of_replace (h : e.Current) (hd : e.document? = some d) (hin : d.CursorInside)
    (hr : e.request? = some r) {s : Session} {x : Failure} (hx : (s.replace d r).result = .error x) :
    ∃ n, x = .numeral n := by
  cases hl : e.dialog.target with
  | none =>
    rw [request?, hl] at hr
    cases hr
  | some l =>
    obtain ⟨d₀, hd₀, hmem, -⟩ := h l hl
    obtain rfl : d₀ = d := Option.some.inj (hd₀.symm.trans hd)
    exact Editor.error_of_replace hl hmem hin hr hx

/-! ## What is noted -/

/-- Whether notes are others and more, and the only warning among these is that the settings cannot be
    written. -/
def Noted (old new : List Note) : Prop :=
  ∃ ns, new = old ++ ns ∧ ∀ n ∈ ns, n.level = .warning →
    ∃ x, n = noteOf .warning ("Could not save decorations setting: " ++ (Failure.settings x).message)

namespace Noted

variable {old new : List Note}

theorem of_eq (h : new = old) : Noted old new := ⟨[], by rw [h, List.append_nil], by simp⟩

/-- Notes that are no warnings. -/
theorem of_append {ns : List Note} (h : new = old ++ ns) (hns : ∀ n ∈ ns, n.level ≠ .warning) :
    Noted old new :=
  ⟨ns, h, fun n hn hwarning => absurd hwarning (hns n hn)⟩

end Noted

theorem level_of_mem_editNotes {n : Note} {made : Except Failure Nat} (h : n ∈ editNotes d made) :
    n.level ≠ .warning := by
  unfold editNotes at h
  split at h
  · obtain rfl := List.mem_singleton.1 h
    exact nofun
  · cases h

theorem level_of_mem_notes {n : Note} {p : Policy} {g : Guard} {t : Text} (h : n ∈ p.notes g t) :
    n.level ≠ .warning := by
  unfold Policy.notes at h
  split at h
  · cases h
  · rcases List.mem_append.1 h with h | h
    · obtain ⟨l, -, h⟩ := List.mem_flatMap.1 h
      unfold Policy.notesOf at h
      split at h
      · obtain ⟨k, -, rfl⟩ := Option.map_eq_some_iff.1 (Option.mem_toList.1 h)
        exact nofun
      · cases h
    · split at h
      · cases h
      · obtain rfl := List.mem_singleton.1 h
        exact nofun

theorem level_of_mem_requestNotes {n : Note} {s : Session} (h : n ∈ requestNotes s d r) :
    n.level ≠ .warning := by
  unfold requestNotes at h
  split at h
  · cases h
  · obtain rfl := List.mem_singleton.1 h
    exact nofun
  · exact level_of_mem_notes h

theorem noted_toggleFormat (h : ∀ d ∈ e.documents, d.CursorInside) :
    Noted e.notes e.toggleFormat.state.notes := by
  have hlevel : e.session.advance.formatNote.level ≠ .warning := nofun
  unfold toggleFormat
  dsimp only
  split
  · exact .of_append rfl (by simpa using hlevel)
  · rename_i d hd
    have hnotes : ∀ made : Except Failure Nat,
        ∀ n ∈ [e.session.advance.formatNote] ++ editNotes d made, n.level ≠ .warning := by
      intro made n hn
      rcases List.mem_append.1 hn with hn | hn
      · rwa [List.mem_singleton.1 hn]
      · exact level_of_mem_editNotes hn
    split
    · rename_i x hx
      obtain ⟨n, rfl⟩ := Session.error_of_respellAll (h d (mem_of_document? hd)) hx
      exact .of_append (List.append_assoc _ _ _) (hnotes _)
    · exact .of_append (List.append_assoc _ _ _) (hnotes _)

theorem noted_toggleDecorations : Noted e.notes e.toggleDecorations.state.notes := by
  unfold toggleDecorations
  dsimp only
  split
  · rename_i x _
    unfold recover
    -- here is the warning that `Noted` leaves room for
    split
    · refine ⟨_, rfl, fun n hn _ => ⟨x, List.mem_singleton.1 hn⟩⟩
    · exact .of_eq rfl
  · refine .of_append rfl fun n hn => ?_
    rcases List.mem_append.1 hn with hn | hn
    · split at hn
      · obtain rfl := List.mem_singleton.1 hn
        exact nofun
      · cases hn
    · obtain rfl := List.mem_singleton.1 hn
      exact nofun

theorem noted_startConvert : Noted e.notes e.startConvert.state.notes := by
  unfold startConvert withDocument
  split
  · exact .of_eq rfl
  · dsimp only
    split <;> exact .of_eq rfl

theorem noted_executeConvert (hcurrent : e.Current) (h : ∀ d ∈ e.documents, d.CursorInside) :
    Noted e.notes e.executeConvert.state.notes := by
  unfold executeConvert
  dsimp only
  split
  · rename_i d r hd hr
    -- closing the dialog has kept the documents
    have hd : e.document? = some d := hd
    have hnotes : ∀ made : Except Failure Nat,
        ∀ n ∈ requestNotes e.closeDialog.session d r ++ editNotes d made, n.level ≠ .warning := by
      intro made n hn
      rcases List.mem_append.1 hn with hn | hn
      · exact level_of_mem_requestNotes hn
      · exact level_of_mem_editNotes hn
    split
    · rename_i x hx
      obtain ⟨n, rfl⟩ := hcurrent.error_of_replace hd (h d (mem_of_document? hd)) hr hx
      exact .of_append rfl (hnotes _)
    · exact .of_append rfl (hnotes _)
  · exact .of_eq rfl

theorem noted_perform (h : ∀ d ∈ e.documents, d.CursorInside) (c : Command) :
    Noted e.notes (e.perform c).state.notes := by
  by_cases hconvert : c = .convert
  · subst hconvert
    exact noted_startConvert
  · by_cases hformat : c = .toggleFormat
    · subst hformat
      exact noted_toggleFormat h
    · by_cases hdecorations : c = .toggleDecorations
      · subst hdecorations
        exact noted_toggleDecorations
      · exact .of_eq (sameAside_perform hconvert hformat hdecorations).notes

/-- **No key** warns of edits. -/
theorem noted_press (hcurrent : e.Current) (h : ∀ d ∈ e.documents, d.CursorInside) (k another : Int) :
    Noted e.notes (e.press k another).state.notes := by
  unfold press
  split
  · rw [Attempt.state_andThen_done]
    unfold pressInDialog
    split
    · exact noted_executeConvert hcurrent h
    · split
      · exact .of_eq rfl
      · split
        · exact .of_eq rfl
        · split <;> exact .of_eq rfl
  · split
    · exact .of_eq (sameAside_pressEscape another).notes
    · split
      · exact .of_eq rfl
      · unfold Attempt.andThen
        split <;> exact noted_perform h _
      · split
        · rw [Attempt.state_andThen_done]
          exact .of_eq (sameAside_type _).notes
        · exact .of_eq rfl

/-! ## The dialog through every run -/

/-- **The dialog is always about what stands there.**  Keys are pressed in an editor whose dialog is
    closed, on documents whose cursors stand inside.

    Whenever the dialog is open then, its target is one of the literals that are read in the active
    document, and the cursor touches it.  If the dialog is about this literal alone, the enter key
    leaves what stands in front of it and behind it and puts its value in the chosen base between them,
    or hands on that the value cannot be written.

    Whatever the dialog is about, its request never fails because of its edits, nor does a pass over the
    active document: the one thing that can fail is the conversion of a number.  So there is no key at
    all that warns of a failed request or a failed pass. -/
theorem dialog_always_current (hclosed : e.dialog.target = none) (hrows : 0 ≤ e.pageHeight)
    (hdocuments : ∀ d ∈ e.documents, d.CursorInside) (keys : List (Int × Int)) :
    (∀ l, (e.pressAll keys).dialog.target = some l → ∃ d, (e.pressAll keys).document? = some d ∧
      l ∈ okPart (readAll d.text) ∧ l.touches d.cursor = true ∧
      ((e.pressAll keys).dialog.reach = .this → ∀ another,
        (∀ s, Numeral.write (e.pressAll keys).dialog.base l.value = .ok s → ∃ d',
          ((e.pressAll keys).press 10 another).result = .ok true ∧
            ((e.pressAll keys).press 10 another).state.document? = some d' ∧
            d'.text = d.text.take l.start ++ s ++ d.text.drop l.stop) ∧
        ∀ n, Numeral.write (e.pressAll keys).dialog.base l.value = .error n →
          ((e.pressAll keys).press 10 another).result = .error (.numeral n) ∧
            ((e.pressAll keys).press 10 another).state.document? = some d)) ∧
    (∀ d, (e.pressAll keys).document? = some d →
      (∀ x, ((e.pressAll keys).session.advance.respellAll d).result = .error x → ∃ n, x = .numeral n) ∧
      ∀ r, (e.pressAll keys).request? = some r →
        ∀ x, ((e.pressAll keys).session.replace d r).result = .error x → ∃ n, x = .numeral n) ∧
    ∀ k another, Noted (e.pressAll keys).notes ((e.pressAll keys).press k another).state.notes := by
  have hcurrent : (e.pressAll keys).Current := (Current.of_closed hclosed).pressAll keys
  have hin : ∀ d ∈ (e.pressAll keys).documents, d.CursorInside :=
    forall_documents_pressAll keys (fun _ _ hd hpressed => hd.pressed hrows hpressed) hdocuments
  generalize e.pressAll keys = e at hcurrent hin ⊢
  refine ⟨fun l hl => ?_, fun d hd => ?_, noted_press hcurrent hin⟩
  · obtain ⟨d, hd, hmem, htouches⟩ := hcurrent l hl
    have hinside := hin d (mem_of_document? hd)
    exact ⟨d, hd, hmem, htouches, press_enter hl hd hmem hinside⟩
  · have hinside := hin d (mem_of_document? hd)
    constructor
    · intro x hx
      exact Session.error_of_respellAll hinside hx
    · intro r hr x hx
      exact hcurrent.error_of_replace hd hinside hr hx

/-- Two documents.  The second is made the active one, where digits are typed, taken back and made
    again; the dialog is opened, closed, and opened again; two keys choose a base and none else does
    anything while it is open. -/
theorem dialog_always_current_two_documents :
    let ds := [Document.ofText "7\n8".toList, Document.ofText "a 1 ;16".toList]
    let e : Editor := { onDocument (.ofText []) with documents := ds }
    let keys := [(27, 50), (262, 0), (261, 0), (261, 0), (261, 0), (50, 0), (2, 0), (25, 0), (18, 0),
      (27, 0), (18, 0), (98, 0), (260, 0), (20, 0), (2, 0), (104, 0)]
    let l : Literal := ⟨"12".toList, 2, 12⟩
    e.dialog.target = none ∧ 0 ≤ e.pageHeight ∧ (∀ d ∈ e.documents, d.CursorInside) ∧
      (e.pressAll keys).dialog.target = some l ∧
      ∃ d d', (e.pressAll keys).document? = some d ∧ d.text = "a 12 ;16".toList ∧
        l ∈ okPart (readAll d.text) ∧
        ((e.pressAll keys).press 10 0).state.document? = some d' ∧ d'.text = "a 0xC ;16".toList := by
  intro ds e keys l
  have hdocuments : ∀ d ∈ e.documents, d.CursorInside := by
    intro d hd
    rcases List.mem_cons.1 hd with rfl | hd
    · exact (Document.Opened.fresh _).sound.inside
    · obtain rfl := List.mem_singleton.1 hd
      exact (Document.Opened.fresh _).sound.inside
  have htarget : (e.pressAll keys).dialog.target = some l := by decide +kernel
  have hreach : (e.pressAll keys).dialog.reach = .this := by decide +kernel
  have hactive : (e.pressAll keys).document?.map Document.text = some "a 12 ;16".toList := by
    decide +kernel
  have hwrite : Numeral.write (e.pressAll keys).dialog.base l.value = .ok "0xC".toList := by
    decide +kernel
  obtain ⟨hdialog, -, -⟩ := dialog_always_current (e := e) rfl (by decide) hdocuments keys
  obtain ⟨d, hd, hmem, -, henter⟩ := hdialog l htarget
  obtain ⟨d', -, hd', htext'⟩ := (henter hreach 0).1 _ hwrite
  rw [hd, Option.map_some] at hactive
  have htext : d.text = "a 12 ;16".toList := Option.some.inj hactive
  rw [htext] at htext'
  exact ⟨rfl, by decide, hdocuments, htarget, d, d', hd, htext, hmem, hd', htext'⟩

end Editor

end Respell
