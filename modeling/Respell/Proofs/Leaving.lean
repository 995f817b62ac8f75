/-
  What is lost when the editor is left.

  The editor asks once before it is left with unsaved changes, and it remembers that it has asked by the
  message that stands in its status, and by nothing else.  This file tells what can have happened to the
  documents between the question and the answer.

  1. **One key** (`Editor.Answers`).  Every key either says nothing, and then it has handled the active
     document at most, or it says something else than the warning, or it warns, or it leaves.  This is
     all that is needed of the twenty-one commands and of the dialog.

  2. **What is watched** (`Watched`).  Beside the editor stand the text that each document was saved with
     last, and the editor as it was when it warned last.  Neither is a part of the editor.

  3. **The invariant** (`Watched.Sound`).  A document without a mark has the text that was saved, or
     nothing to undo (`Document.Tells`).  And while the warning stands, nothing has been done since but
     the active document was handled: another message would stand there otherwise.

  4. **Leaving** (`Watched.leaving_discards`).  The editor goes on after any key but the one that leaves.
     Of the work that the mark or the history tells of, it discards what it has warned of and what was
     typed, taken out, undone or redone in the active document since.
-/
import Mathlib.Logic.Relation
import Respell.Proofs.FormatStep
import Respell.Proofs.Turns
import Respell.Proofs.UnsavedMark

namespace Respell

open Relation

namespace Editor

variable {e e' e'' : Editor} {d d' : Document} {R : Document → Document → Prop}

/-! ## What keys say -/

/-- Whether one of the documents is marked. -/
def hasUnsaved (e : Editor) : Bool := e.documents.any (·.modified)

/-- Whether the warning of unsaved changes stands in the status. -/
def IsWarned (e : Editor) : Prop := e.message.map (·.text) = some unsavedWarning

instance : Decidable e.IsWarned := inferInstanceAs (Decidable (_ = _))

theorem not_isWarned {t : String} {since : Option Binary64} (hm : e.message = some ⟨t, since⟩)
    (ht : t ≠ unsavedWarning) : ¬ e.IsWarned := by
  rw [IsWarned, hm]
  intro h
  exact ht (Option.some.inj h)

/-- A text that begins in another way is another text. -/
theorem ne_unsavedWarning {lead : String} (hlead : lead.toList.head?.any (· ≠ 'B') = true)
    (rest : String) : lead ++ rest ≠ unsavedWarning := by
  obtain ⟨c, hc, hB⟩ := (Option.any_eq_true _ _).1 hlead
  have hhead : (lead ++ rest).toList.head? = some c := by
    rw [String.toList_append, List.head?_append, hc, Option.some_or]
  intro h
  rw [h] at hhead
  obtain rfl : 'B' = c := Option.some.inj ((by decide : _ = _).symm.trans hhead)
  exact absurd hB (by decide)

theorem document?_congr (hactive : e'.active = e.active) (hdocuments : e'.documents = e.documents) :
    e'.document? = e.document? := by
  rw [document?, document?, hactive, hdocuments]

theorem getElem?_of_document? (h : e.document? = some d) :
    0 ≤ e.active ∧ e.documents[e.active.toNat]? = some d := by
  unfold document? at h
  split at h
  · cases h
  · rename_i hactive
    exact ⟨Int.not_lt.1 hactive, h⟩

theorem documents_setDocument_self (h : e.document? = some d) :
    (e.setDocument d).documents = e.documents := by
  obtain ⟨hlt, rfl⟩ := List.getElem?_eq_some_iff.1 (getElem?_of_document? h).2
  exact List.set_getElem_self hlt

/-- A document behind a step is the active one behind it, or one that was there. -/
theorem getElem?_setDocument (h : e.document? = some d) {i : Nat} {d'' : Document}
    (hi : (e.setDocument d').documents[i]? = some d'') :
    ((i : Int) = e.active ∧ d'' = d') ∨ (i ≠ e.active.toNat ∧ e.documents[i]? = some d'') := by
  obtain ⟨hactive, hd⟩ := getElem?_of_document? h
  obtain ⟨hlt, -⟩ := List.getElem?_eq_some_iff.1 hd
  by_cases hsame : i = e.active.toNat
  · subst hsame
    rw [setDocument, List.getElem?_set_self hlt] at hi
    exact .inl ⟨by omega, (Option.some.inj hi).symm⟩
  · rw [setDocument, List.getElem?_set_ne (Ne.symm hsame)] at hi
    exact .inr ⟨hsame, hi⟩

/-- Whether at most the active document differs in another editor, by a step. -/
def Acts (R : Document → Document → Prop) (e e' : Editor) : Prop :=
  e'.documents = e.documents ∨
    ∃ d d', e.document? = some d ∧ R d d' ∧ e'.documents = (e.setDocument d').documents

theorem Acts.mono {S : Document → Document → Prop} (h : Acts R e e')
    (hRS : ∀ d d', e.document? = some d → R d d' → S d d') : Acts S e e' := by
  rcases h with hsame | ⟨d, d', hd, hR, hset⟩
  · exact .inl hsame
  · exact .inr ⟨d, d', hd, hRS d d' hd hR, hset⟩

/-- Whether another editor says the same, with the active document handled at most. -/
structure Quiet (e e' : Editor) : Prop where
  message : e'.message = e.message
  active : e'.active = e.active
  converting : e'.isConverting = e.isConverting
  leaving : e'.leaving = e.leaving
  acts : Acts Document.Handled e e'

/-- The text that a command writes to the file of the active document, if it writes one. -/
def savedBy? (e : Editor) (c : Command) : Option Text :=
  if c = .save then
    e.document?.bind fun d =>
      match d.save e.world.files none with
      | .ok (some _) => some d.text
      | _ => none
  else none

/-- What a key can make of an editor, with the text that it saves. -/
inductive Answers (e : Editor) : Option Text → Editor → Prop where
  /-- Nothing is said. -/
  | silent {e' : Editor} : e.Quiet e' → Answers e none e'
  /-- Nothing is said, but the dialog was open. -/
  | inDialog {e' : Editor} : e.isConverting = true → e'.message = e.message → e'.leaving = e.leaving →
      Acts Document.Called e e' → Answers e none e'
  | speaks {e' : Editor} (t : String) : t ≠ unsavedWarning → e'.message = some ⟨t, none⟩ →
      e'.leaving = e.leaving → Acts Document.Called e e' → Answers e none e'
  | saves {e' : Editor} {d : Document} (t name : String) : t ≠ unsavedWarning →
      e'.message = some ⟨t, none⟩ → e'.leaving = e.leaving → e.document? = some d →
      e'.documents = (e.setDocument { d with filename := some name, modified := false }).documents →
      Answers e (some d.text) e'
  | warns : e.isConverting = false → e.hasUnsaved = true → ¬ e.IsWarned →
      Answers e none (e.say unsavedWarning)
  | leaves : (e.hasUnsaved = true → e.IsWarned) → Answers e none { e with leaving := true }

namespace Quiet

theorem refl (e : Editor) : Quiet e e := ⟨rfl, rfl, rfl, rfl, .inl rfl⟩

theorem step (h : e.document? = some d) (hd : d.Handled d') : Quiet e (e.setDocument d') :=
  ⟨rfl, rfl, rfl, rfl, .inr ⟨d, d', h, hd, rfl⟩⟩

/-- The session, the files and the notes do not matter. -/
theorem of_eq (hmessage : e'.message = e.message) (hactive : e'.active = e.active)
    (hdialog : e'.dialog = e.dialog) (hleaving : e'.leaving = e.leaving)
    (hdocuments : e'.documents = e.documents) : Quiet e e' :=
  ⟨hmessage, hactive, by rw [isConverting, isConverting, hdialog], hleaving, .inl hdocuments⟩

end Quiet

theorem quiet_withDocument {f : Document → Action}
    (h : ∀ d, e.document? = some d → Quiet e (f d).state) : Quiet e (e.withDocument f).state := by
  unfold withDocument
  cases hd : e.document? with
  | none => exact .refl e
  | some d => exact h d hd

theorem quiet_move {f : Document → Document} (h : ∀ d : Document, d.Moved (f d)) :
    Quiet e (e.move f).state :=
  quiet_withDocument fun d hd => .step hd (.moved (h d))

theorem quiet_change {f : Document → Attempt Document DocumentError Unit}
    (h : ∀ d : Document, d.Handled (f d).state) : Quiet e (e.change f).state :=
  quiet_withDocument fun d hd => .step hd (h d)

/-- An operation on the active document need be looked at only if there is one. -/
theorem answers_withDocument {f : Document → Action}
    (h : ∀ d, e.document? = some d → Answers e none (f d).state) :
    Answers e none (e.withDocument f).state := by
  unfold withDocument
  cases hd : e.document? with
  | none => exact .silent (.refl e)
  | some d => exact h d hd

/-! ## Commands -/

theorem answers_stepHistory {f : Document → Attempt Document DocumentError Bool} {nothing : String}
    (hhandled : ∀ d : Document, d.Handled (f d).state) (hcalled : ∀ d : Document, d.Called (f d).state)
    (hnothing : nothing ≠ unsavedWarning) : Answers e none (e.stepHistory f nothing).state := by
  refine answers_withDocument fun d hd => ?_
  dsimp only
  split
  · exact .silent (.step hd (hhandled d))
  · exact .silent (.step hd (hhandled d))
  · exact .speaks nothing hnothing rfl rfl (.inr ⟨d, _, hd, hcalled d, rfl⟩)

/-- What is told of a failure is no warning, and nothing is said of one that is handed on. -/
theorem answers_recover {x : Failure} {lead : String} (hleaving : e'.leaving = e.leaving)
    (hacts : Acts Document.Called e e') (hquiet : Answers e none e') :
    Answers e none (e'.recover x lead).state := by
  unfold recover
  split
  · exact .speaks _ (ne_unsavedWarning (by decide) x.message) rfl hleaving hacts
  · exact hquiet

theorem answers_save : Answers e (e.savedBy? .save) e.save.state := by
  unfold save withDocument savedBy?
  rw [if_pos rfl]
  cases hd : e.document? with
  | none => exact .silent (.refl e)
  | some d =>
    dsimp only
    rw [Option.bind_some]
    cases hsave : d.save e.world.files none with
    | error x =>
      dsimp only
      split
      · exact .speaks _ (ne_unsavedWarning (by decide) _) rfl rfl (.inl rfl)
      · exact .silent (.refl e)
    | ok saved =>
      cases saved with
      | none => exact .speaks "Error: No filename" (by decide) rfl rfl (.inl rfl)
      | some saved =>
        obtain ⟨d', files⟩ := saved
        obtain ⟨name, rfl⟩ := Document.state_save hsave
        exact .saves _ name (ne_unsavedWarning (by decide) _) rfl rfl hd rfl

/-- A pass that fails without a message has not touched the document. -/
theorem answers_toggleFormat (hin : ∀ d, e.document? = some d → d.CursorInside) :
    Answers e none e.toggleFormat.state := by
  have hreport : ∀ (b : Base) (n : Nat), "Number format: " ++ b.title ++ " (" ++ toString n ++
      " converted)" ≠ unsavedWarning := by
    intro b n
    rw [String.append_assoc, String.append_assoc, String.append_assoc]
    exact ne_unsavedWarning (by decide) _
  unfold toggleFormat
  dsimp only
  split
  · exact .speaks _ (hreport _ 0) rfl rfl (.inl rfl)
  · rename_i d hd
    obtain ⟨es, hes⟩ := Session.state_applyMade d
      ((cycleEdits e.session.advance.format d.text).mapError .numeral)
    have hcalled : d.Called (e.session.advance.respellAll d).state := by
      rw [Session.respellAll, hes]
      exact d.called_applyEdits es
    have hacts : Acts Document.Called e (e.setDocument (e.session.advance.respellAll d).state) :=
      .inr ⟨d, _, hd, hcalled, rfl⟩
    split
    · rename_i x hx
      refine answers_recover (by rfl) hacts (.silent ?_)
      have hsame : (e.session.advance.respellAll d).state = d := by
        by_cases hfit : AllFit e.session.advance.format d.text
        · obtain ⟨ls, u, d', -, -, hrun, -⟩ := Session.respellAll_of_allFit (hin d hd) hfit
          rw [hrun] at hx
          cases hx
        · obtain ⟨n, -, hrun⟩ := Session.respellAll_of_not_allFit hfit
          rw [hrun]
          rfl
      refine .of_eq (by rfl) (by rfl) (by rfl) (by rfl) ?_
      show (e.setDocument (e.session.advance.respellAll d).state).documents = e.documents
      rw [hsame]
      exact documents_setDocument_self hd
    · exact .speaks _ (hreport _ _) rfl rfl hacts

theorem answers_toggleDecorations : Answers e none e.toggleDecorations.state := by
  unfold toggleDecorations
  dsimp only
  split
  · exact answers_recover (by rfl) (.inl (by rfl)) (.silent (.of_eq rfl rfl rfl rfl rfl))
  · rename_i on _
    refine .speaks _ ?_ rfl rfl (.inl rfl)
    cases on <;> decide

theorem answers_jump (search : Document → Except NumeralError (Option Literal)) :
    Answers e none (e.jump search).state := by
  refine answers_withDocument fun d hd => ?_
  split
  · exact .silent (.refl e)
  · exact .speaks "No numbers in buffer" (by decide) rfl rfl (.inl rfl)
  · exact .silent (.step hd (.moved ⟨_, _, rfl⟩))

theorem answers_startConvert : Answers e none e.startConvert.state := by
  refine answers_withDocument fun d _ => ?_
  split
  · exact .silent (.refl e)
  · exact .speaks "No number under cursor" (by decide) rfl rfl (.inl rfl)
  · exact .speaks "Convert mode. d/h/b/o: target, Tab: scope, Enter: convert, Esc: cancel" (by decide)
      rfl rfl (.inl rfl)

theorem answers_quit (he : e.isConverting = false) : Answers e none e.quit := by
  unfold quit
  split
  · rename_i h
    exact .warns he h.1 h.2
  · rename_i h
    exact .leaves fun hunsaved => Classical.not_not.1 fun hwarned => h ⟨hunsaved, hwarned⟩

theorem answers_perform (he : e.isConverting = false)
    (hin : ∀ d, e.document? = some d → d.CursorInside) (c : Command) :
    Answers e (e.savedBy? c) (e.perform c).state := by
  cases c with
  | left => exact .silent (quiet_move Document.moved_moveLeft)
  | right => exact .silent (quiet_move Document.moved_moveRight)
  | up => exact .silent (quiet_move Document.moved_moveUp)
  | down => exact .silent (quiet_move Document.moved_moveDown)
  | lineStart | lineEnd | pageUp | pageDown => exact .silent (quiet_move fun _ => ⟨_, _, rfl⟩)
  | deleteForward => exact .silent (quiet_change fun _ => .deleteForward)
  | deleteBackward => exact .silent (quiet_change fun _ => .deleteBackward)
  | enter => exact .silent (quiet_change fun _ => .breakLine)
  | tab => exact .silent (quiet_change fun _ => .type _ (by decide))
  | quit => exact answers_quit he
  | save => exact answers_save
  | undo => exact answers_stepHistory (fun _ => .undo) Document.called_undo (by decide)
  | redo => exact answers_stepHistory (fun _ => .redo) Document.called_redo (by decide)
  | toggleFormat => exact answers_toggleFormat hin
  | toggleDecorations => exact answers_toggleDecorations
  | convert => exact answers_startConvert
  | next => exact answers_jump _
  | previous => exact answers_jump _

/-! ## Every key -/

theorem answers_executeConvert (he : e.isConverting = true) : Answers e none e.executeConvert.state := by
  unfold executeConvert
  dsimp only
  split
  · rename_i d r hd _
    obtain ⟨es, hes⟩ := e.closeDialog.session.state_replace d r
    have hacts : Acts Document.Called e (e.setDocument (e.closeDialog.session.replace d r).state) := by
      refine .inr ⟨d, _, hd, ?_, rfl⟩
      rw [hes]
      exact d.called_applyEdits es
    split
    · exact answers_recover (by rfl) hacts (.inDialog he (by rfl) (by rfl) hacts)
    · refine .speaks _ ?_ rfl rfl hacts
      rw [String.append_assoc, String.append_assoc]
      exact ne_unsavedWarning (by decide) _
  · exact .inDialog he rfl rfl (.inl rfl)

theorem answers_pressInDialog (he : e.isConverting = true) (k : Int) :
    Answers e none (e.pressInDialog k).state := by
  unfold pressInDialog
  split
  · exact answers_executeConvert he
  · split
    · exact .inDialog he rfl rfl (.inl rfl)
    · split
      · exact .inDialog he rfl rfl (.inl rfl)
      · split <;> exact .inDialog he rfl rfl (.inl rfl)

theorem answers_pressEscape (another : Int) : Answers e none (e.pressEscape another) := by
  unfold pressEscape switchTo
  split
  · split
    · exact .silent (.refl e)
    · split
      · exact .silent (.refl e)
      · exact .speaks _ (ne_unsavedWarning (by decide) _) rfl rfl (.inl rfl)
  · exact .silent (.refl e)

/-- The text that something writes to the file of the active document, if it does. -/
def savedText? (e : Editor) : Turn → Option Text
  | .press k _ => if e.isConverting then none else (Command.ofKey? k).bind e.savedBy?
  | _ => none

/-- **One key** says nothing, says something else than the warning, warns, or leaves. -/
theorem answers_press (hin : ∀ d, e.document? = some d → d.CursorInside) (k another : Int) :
    Answers e (e.savedText? (.press k another)) (e.press k another).state := by
  unfold press savedText?
  dsimp only
  split
  · rename_i he
    rw [Attempt.state_andThen_done]
    exact answers_pressInDialog he k
  · rename_i he
    split
    · rename_i hk
      subst hk
      exact answers_pressEscape another
    · split
      · rename_i hd
        have hnone : (Command.ofKey? k).bind e.savedBy? = none := by
          cases Command.ofKey? k with
          | none => rfl
          | some c =>
            rw [Option.bind_some, savedBy?, hd]
            split <;> rfl
        rw [hnone]
        exact .silent (.refl e)
      · rename_i c _ hc
        rw [hc, Option.bind_some]
        have hstate : ((e.perform c).andThen fun e _ => .done e (!e.leaving)).state =
            (e.perform c).state := by
          unfold Attempt.andThen
          split <;> rfl
        rw [hstate]
        exact answers_perform (Bool.eq_false_iff.2 he) hin c
      · rename_i hc
        rw [hc]
        split
        · rename_i hrange
          rw [Attempt.state_andThen_done]
          exact .silent (quiet_change fun _ => .type _ (newline_notMem_printable hrange.1 hrange.2))
        · exact .silent (.refl e)

/-- The editor goes on unless it is being left. -/
theorem leaving_of_result {k another : Int} (h : (e.press k another).result = .ok false) :
    (e.press k another).state.leaving = true := by
  unfold press at h ⊢
  split at h
  · unfold Attempt.andThen at h
    split at h <;> cases h
  · rename_i he
    rw [if_neg he]
    split at h
    · cases h
    · rename_i hk
      rw [if_neg hk]
      split at h
      · cases h
      · rename_i c _ _
        unfold Attempt.andThen at h ⊢
        split at h
        · show (e.perform c).state.leaving = true
          have hgone : (!(e.perform c).state.leaving) = false := Except.ok.inj h
          simpa using hgone
        · cases h
      · split at h
        · unfold Attempt.andThen at h
          split at h <;> cases h
        · cases h

/-- An editor that begins to be left has asked before if there was something to ask for. -/
theorem Answers.left {text : Option Text} (h : e.Answers text e') (hstays : e.leaving = false)
    (hleft : e'.leaving = true) :
    e' = { e with leaving := true } ∧ (e.hasUnsaved = true → e.IsWarned) := by
  have hgone : e'.leaving ≠ e.leaving := by
    rw [hleft, hstays]
    exact Bool.noConfusion
  cases h with
  | silent hquiet => exact absurd hquiet.leaving hgone
  | inDialog _ _ hsame _ => exact absurd hsame hgone
  | speaks _ _ _ hsame _ => exact absurd hsame hgone
  | saves _ _ _ _ hsame _ _ => exact absurd hsame hgone
  | warns => exact absurd rfl hgone
  | leaves hasked => exact ⟨rfl, hasked⟩

/-! ## What else happens -/

theorem isWarned_congr (h : e'.message = e.message) : e'.IsWarned ↔ e.IsWarned := by
  rw [IsWarned, IsWarned, h]

theorem isWarned_resize {height width : Int} (h : (e.resize height width).IsWarned) : e.IsWarned := by
  unfold resize at h
  dsimp only at h
  split at h
  · exact absurd h (not_isWarned rfl (by decide))
  · exact h

/-- A message goes with time, but another one does not come. -/
theorem text_agedMessage {now : Binary64} {old : Option Message} {m : Message}
    (h : agedMessage now old = some m) : ∃ m₀, old = some m₀ ∧ m.text = m₀.text := by
  unfold agedMessage at h
  split at h
  · cases h
  · rename_i m₀
    refine ⟨m₀, rfl, ?_⟩
    split at h
    · exact (Option.some.inj h) ▸ rfl
    · split at h
      · exact (Option.some.inj h) ▸ rfl
      · split at h
        · cases h
        · exact (Option.some.inj h) ▸ rfl

theorem isWarned_refresh {lexers : Document → Highlight.Lexer}
    (h : (e.refresh lexers).state.IsWarned) : e.IsWarned := by
  have hwindow : (if e.isConverting then e.withDialogWindow else e).message = e.message := by
    split <;> rfl
  rw [← isWarned_congr hwindow]
  unfold refresh at h
  generalize (if e.isConverting then e.withDialogWindow else e) = e₁ at h ⊢
  dsimp only at h
  split at h
  · exact h
  · split at h
    · exact h
    · obtain ⟨m, hm, htext⟩ := Option.map_eq_some_iff.1 h
      obtain ⟨m₀, hm₀, hsame⟩ := text_agedMessage hm
      exact Option.map_eq_some_iff.2 ⟨m₀, hm₀, hsame ▸ htext⟩

/-- Whether nothing was done to another editor since but to handle its active document. -/
structure Since (e₀ e : Editor) : Prop where
  active : e.active = e₀.active
  acts : Acts (ReflTransGen Document.Handled) e₀ e

namespace Since

variable {e₀ : Editor}

theorem refl (e : Editor) : Since e e := ⟨rfl, .inl rfl⟩

theorem sameWork (h : Since e₀ e) (hsame : e.SameWork e') : Since e₀ e' := by
  refine ⟨hsame.active.trans h.active, ?_⟩
  rw [Acts, hsame.documents]
  exact h.acts

/-- A key that says nothing handles it once more. -/
theorem quiet (h : Since e₀ e) (hq : e.Quiet e') : Since e₀ e' := by
  refine ⟨hq.active.trans h.active, ?_⟩
  rcases hq.acts with hsame | ⟨d, d', hd, hhandled, hset⟩
  · rw [Acts, hsame]
    exact h.acts
  · right
    rcases h.acts with hsame₀ | ⟨d₀, d₁, hd₀, hmany, hset₀⟩
    · -- It is the first time since.
      refine ⟨d, d', (document?_congr h.active hsame₀).symm.trans hd, .single hhandled, ?_⟩
      rw [hset, setDocument, setDocument, hsame₀, h.active]
    · have hd₁ : e.document? = some d₁ := by
        have hsame : e.document? = (e₀.setDocument d₁).document? := document?_congr h.active hset₀
        rw [hsame, document?_setDocument hd₀ d₁]
      obtain rfl : d = d₁ := Option.some.inj (hd.symm.trans hd₁)
      refine ⟨d₀, d', hd₀, hmany.tail hhandled, ?_⟩
      show e'.documents = e₀.documents.set e₀.active.toNat d'
      rw [hset, setDocument, hset₀, setDocument, h.active]
      exact List.set_set _

/-- A document that is not active is the same. -/
theorem getElem? (h : Since e₀ e) {i : Nat} {d : Document} (hd : e.documents[i]? = some d) :
    ∃ d₀, e₀.documents[i]? = some d₀ ∧
      (d = d₀ ∨ (i : Int) = e.active ∧ ReflTransGen Document.Handled d₀ d) := by
  rcases h.acts with hsame | ⟨d₀, d₁, hd₀, hmany, hset⟩
  · exact ⟨d, hsame ▸ hd, .inl rfl⟩
  · rw [hset] at hd
    rcases getElem?_setDocument hd₀ hd with ⟨hi, rfl⟩ | ⟨-, hd⟩
    · refine ⟨d₀, ?_, .inr ⟨hi.trans h.active.symm, hmany⟩⟩
      have hsame : i = e₀.active.toNat := by omega
      rw [hsame]
      exact (getElem?_of_document? hd₀).2
    · exact ⟨d, hd, .inl rfl⟩

end Since

end Editor

/-! ## The mark of one document -/

namespace Document

variable {d d' : Document} {t : Text}

/-- Whether a document without a mark has a text, or nothing to undo. -/
def Tells (d : Document) (t : Text) : Prop := d.modified = false → d.text = t ∨ d.past = []

theorem Tells.congr (h : d.Tells t) (hsame : d.SameText d') (hmodified : d'.modified = d.modified) :
    d'.Tells t := by
  intro hclear
  have htext : d'.text = d.text := by rw [Document.text, Document.text, hsame.lines]
  rw [htext, hsame.past]
  exact h (hmodified.symm.trans hclear)

/-- **A call** that leaves no mark has done nothing, or leaves nothing to undo. -/
theorem Tells.called (h : d.Tells t) (hsound : d.Sound) (hcalled : d.Called d') : d'.Tells t := by
  obtain ⟨th, hs⟩ := hsound.recorded
  obtain ⟨op, hsame, hmodified⟩ := hcalled
  refine Tells.congr (d := (op.run d).state) ?_ hsame hmodified
  have hs' := (Operation.keeps hs op).simulates
  -- A step of the history without a mark has done nothing, or there is nothing left to undo.
  intro hclear
  rw [(Operation.marks hs op).modified] at hclear
  rcases TextHistory.step_of_not_mark hclear with ⟨hbefore, hstep⟩ | hpast
  · rcases h hbefore with htext | hpast
    · left
      rw [hs'.text, hstep, ← hs.text, htext]
    · right
      rw [← List.isEmpty_iff, hs'.isEmpty_past, hstep, ← hs.isEmpty_past, hpast]
      rfl
  · right
    rw [← List.isEmpty_iff, hs'.isEmpty_past, hpast]
    rfl

end Document

/-! ## What is watched -/

/-- An editor with what was saved and what was warned of. -/
structure Watched where
  editor : Editor
  /-- The text that each document was opened or saved with last. -/
  saved : List Text
  /-- The editor as it was when it warned last. -/
  warned : Option Editor
  deriving DecidableEq, Repr

namespace Watched

open Editor

variable {w : Watched}

/-- An editor whose documents have just been opened. -/
def start (e : Editor) : Watched := ⟨e, e.documents.map (·.text), none⟩

/-- What is watched when an editor becomes another one, with the text that is saved on the way. -/
def become (w : Watched) (e : Editor) (text : Option Text) : Watched where
  editor := e
  saved :=
    match text with
    | none => w.saved
    | some text => w.saved.set w.editor.active.toNat text
  warned := if ¬ w.editor.IsWarned ∧ e.IsWarned then some e else w.warned

/-- What is watched of a turn. -/
def turn (w : Watched) (t : Turn) : Watched := w.become (w.editor.turn t) (w.editor.savedText? t)

/-- What is watched of a run. -/
def turnAll (w : Watched) (turns : List Turn) : Watched := turns.foldl turn w

/-- Watching changes nothing. -/
theorem editor_turnAll (w : Watched) (turns : List Turn) :
    (w.turnAll turns).editor = w.editor.turnAll turns := by
  induction turns generalizing w with
  | nil => rfl
  | cons t turns ih => exact ih (w.turn t)

/-- Whether each document tells of the text that was saved. -/
def AllTell (ds : List Document) (saved : List Text) : Prop :=
  ∀ (i : Nat) (d : Document), ds[i]? = some d → ∃ t, saved[i]? = some t ∧ d.Tells t

/-- What holds of a run at any time. -/
structure Sound (w : Watched) : Prop where
  orderly : w.editor.Orderly
  documents : ∀ d ∈ w.editor.documents, d.Sound
  tells : AllTell w.editor.documents w.saved
  warned : w.editor.IsWarned →
    w.editor.isConverting = false ∧ ∃ e₀, w.warned = some e₀ ∧ e₀.Since w.editor

namespace Sound

/-- What a call leaves behind tells what it told before. -/
theorem tells_of_acts (h : w.Sound) {e : Editor} (hacts : Acts Document.Called w.editor e) :
    AllTell e.documents w.saved := by
  intro i d hd
  rcases hacts with hsame | ⟨d₀, d₁, hd₀, hcalled, hset⟩
  · exact h.tells i d (hsame ▸ hd)
  · rw [hset] at hd
    rcases getElem?_setDocument hd₀ hd with ⟨hi, rfl⟩ | ⟨-, hd⟩
    · obtain ⟨hactive, hget⟩ := getElem?_of_document? hd₀
      obtain rfl : i = w.editor.active.toNat := by omega
      obtain ⟨t, ht, htells⟩ := h.tells _ d₀ hget
      exact ⟨t, ht, htells.called (h.documents d₀ (mem_of_document? hd₀)) hcalled⟩
    · exact h.tells i d hd

/-- A document that is saved tells the truth. -/
theorem tells_of_save (h : w.Sound) {e : Editor} {d₀ : Document} {name : String}
    (hd₀ : w.editor.document? = some d₀) (hset : e.documents =
      (w.editor.setDocument { d₀ with filename := some name, modified := false }).documents) :
    AllTell e.documents (w.saved.set w.editor.active.toNat d₀.text) := by
  intro i d hd
  rw [hset] at hd
  rcases getElem?_setDocument hd₀ hd with ⟨hi, rfl⟩ | ⟨hi, hd⟩
  · obtain ⟨hactive, hget⟩ := getElem?_of_document? hd₀
    obtain rfl : i = w.editor.active.toNat := by omega
    obtain ⟨t, ht, -⟩ := h.tells _ d₀ hget
    obtain ⟨hlt, -⟩ := List.getElem?_eq_some_iff.1 ht
    exact ⟨d₀.text, List.getElem?_set_self hlt, fun _ => .inl rfl⟩
  · obtain ⟨t, ht, htells⟩ := h.tells i d hd
    exact ⟨t, (List.getElem?_set_ne (Ne.symm hi)).trans ht, htells⟩

/-- What keys alone can change stays otherwise, and no warning is given. -/
theorem aside (h : w.Sound) {e : Editor} (horderly : e.Orderly) (hsame : w.editor.SameWork e)
    (hwarned : e.IsWarned → w.editor.IsWarned) : (w.become e none).Sound := by
  unfold become
  rw [if_neg fun hnew => hnew.1 (hwarned hnew.2)]
  refine ⟨horderly, hsame.documents ▸ h.documents, hsame.documents ▸ h.tells, fun hstands => ?_⟩
  obtain ⟨hclosed, e₀, he₀, hsince⟩ := h.warned (hwarned hstands)
  refine ⟨?_, e₀, he₀, hsince.sameWork hsame⟩
  rw [isConverting, hsame.dialog]
  exact hclosed

/-- Whatever a key answers, the warning is still about all that was done. -/
theorem answer (h : w.Sound) {e : Editor} {text : Option Text} (horderly : e.Orderly)
    (hdocuments : ∀ d ∈ e.documents, d.Sound) (hanswers : w.editor.Answers text e) :
    (w.become e text).Sound := by
  unfold become
  cases hanswers with
  | silent hquiet =>
    have hw := isWarned_congr hquiet.message
    rw [if_neg fun hnew => hnew.1 (hw.1 hnew.2)]
    refine ⟨horderly, hdocuments, h.tells_of_acts ?_, fun hstands => ?_⟩
    · exact hquiet.acts.mono fun d d' hd hhandled =>
        (h.orderly.inside d (mem_of_document? hd)).called hhandled
    · obtain ⟨hclosed, e₀, he₀, hsince⟩ := h.warned (hw.1 hstands)
      exact ⟨hquiet.converting.trans hclosed, e₀, he₀, hsince.quiet hquiet⟩
  | inDialog hopen hmessage _ hacts =>
    have hw := isWarned_congr hmessage
    rw [if_neg fun hnew => hnew.1 (hw.1 hnew.2)]
    refine ⟨horderly, hdocuments, h.tells_of_acts hacts, fun hstands => ?_⟩
    rw [(h.warned (hw.1 hstands)).1] at hopen
    cases hopen
  | speaks t ht hmessage _ hacts =>
    have hw := not_isWarned hmessage ht
    rw [if_neg fun hnew => hw hnew.2]
    exact ⟨horderly, hdocuments, h.tells_of_acts hacts, fun hstands => absurd hstands hw⟩
  | saves t name ht hmessage _ hd hset =>
    have hw := not_isWarned hmessage ht
    rw [if_neg fun hnew => hw hnew.2]
    exact ⟨horderly, hdocuments, h.tells_of_save hd hset, fun hstands => absurd hstands hw⟩
  | warns hclosed _ hnot =>
    rw [if_pos ⟨hnot, rfl⟩]
    exact ⟨horderly, hdocuments, h.tells, fun _ => ⟨hclosed, _, rfl, .refl _⟩⟩
  | leaves _ => exact h.aside horderly ⟨rfl, rfl, rfl⟩ id

/-- **One turn.** -/
theorem turn (h : w.Sound) {t : Turn} (ht : LeavesRoom t) : (w.turn t).Sound := by
  have horderly := h.orderly.turn ht
  cases t with
  | press k another =>
    have hin : ∀ d, w.editor.document? = some d → d.CursorInside := by
      intro d hd
      exact h.orderly.inside d (mem_of_document? hd)
    have hdocuments := (touches_press w.editor k another).forall_documents
      (fun _ _ hd hpressed => Document.Sound.pressed hd h.orderly.rows hpressed) h.documents
    exact h.answer horderly hdocuments (answers_press hin k another)
  | resize height width => exact h.aside horderly (sameWork_resize height width) isWarned_resize
  | refresh lexers => exact h.aside horderly (sameWork_refresh lexers).1 isWarned_refresh
  | outside world notes => exact h.aside horderly ⟨rfl, rfl, rfl⟩ id

/-- **A run.** -/
theorem turnAll (h : w.Sound) {turns : List Turn} (hroom : ∀ t ∈ turns, LeavesRoom t) :
    (w.turnAll turns).Sound := by
  induction turns generalizing w with
  | nil => exact h
  | cons t turns ih =>
    exact ih (h.turn (hroom t List.mem_cons_self)) fun t' ht' => hroom t' (List.mem_cons_of_mem t ht')

/-- Documents that have just been opened are what was saved, and the status does not warn. -/
theorem start {e : Editor} {created : Option String} {ds : List Document}
    (horderly : (e.openAll created ds).Orderly) (hnone : e.documents = [])
    (hquiet : ¬ (e.openAll created ds).IsWarned) (hds : ∀ d ∈ ds, d.Opened) :
    (Watched.start (e.openAll created ds)).Sound := by
  refine ⟨horderly, ?_, ?_, fun hstands => absurd hstands hquiet⟩
  · show ∀ d ∈ (e.openAll created ds).documents, d.Sound
    rw [openAll_documents, hnone, List.nil_append]
    exact fun d hd => (hds d hd).sound
  · intro i d hd
    refine ⟨d.text, ?_, fun _ => .inl rfl⟩
    show ((e.openAll created ds).documents.map (·.text))[i]? = some d.text
    rw [List.getElem?_map]
    exact Option.map_eq_some_iff.2 ⟨d, hd, rfl⟩

/-- While an editor may be left, the work that the mark or the history tells of was warned of. -/
theorem discards (h : w.Sound) (hasked : w.editor.hasUnsaved = true → w.editor.IsWarned) {i : Nat}
    {d : Document} {t : Text} (hd : w.editor.documents[i]? = some d) (htells : d.Tells t)
    (hne : d.text ≠ t) (hknown : d.modified = true ∨ d.past ≠ []) :
    w.editor.IsWarned ∧ ∃ e₀ d₀, w.warned = some e₀ ∧ e₀.documents[i]? = some d₀ ∧
      (d = d₀ ∨ (i = w.editor.active ∧ e₀.active = w.editor.active ∧
        ReflTransGen Document.Handled d₀ d)) := by
  have hmarked : d.modified = true := by
    cases hclear : d.modified with
    | true => rfl
    | false =>
      rcases htells hclear with hsame | hpast
      · exact absurd hsame hne
      · rw [hclear] at hknown
        exact absurd hpast (hknown.resolve_left Bool.false_ne_true)
  have hstands : w.editor.IsWarned :=
    hasked (List.any_eq_true.2 ⟨d, List.mem_of_getElem? hd, hmarked⟩)
  obtain ⟨-, e₀, he₀, hsince⟩ := h.warned hstands
  obtain ⟨d₀, hd₀, hsame⟩ := hsince.getElem? hd
  refine ⟨hstands, e₀, d₀, he₀, hd₀, hsame.imp_right fun hhandled => ?_⟩
  exact ⟨hhandled.1, hsince.active.symm, hhandled.2⟩

end Sound

/-! ## Leaving -/

theorem message_start {session : Session} {world : World} {height width : Int} {e : Editor}
    (h : Editor.start session world height width = .ok e) : e.message = none := by
  unfold Editor.start at h
  split at h
  · cases h
  · obtain rfl := Except.ok.inj h
    rfl

theorem foldl_addDocument_message (e : Editor) (ds : List Document) :
    (ds.foldl addDocument e).message = e.message := by
  induction ds generalizing e with
  | nil => rfl
  | cons d ds ih => exact ih (e.addDocument d)

/-- What is said of a new document is no warning. -/
theorem not_isWarned_openAll {e : Editor} (hmessage : e.message = none) (created : Option String)
    (ds : List Document) : ¬ (e.openAll created ds).IsWarned := by
  cases created with
  | none =>
    have hnone : (e.openAll none ds).message = none := (foldl_addDocument_message e ds).trans hmessage
    rw [IsWarned, hnone]
    nofun
  | some name => exact not_isWarned rfl (ne_unsavedWarning (by decide) name)

/-- **Leaving discards what was warned of, and little else.**  Documents are opened in an editor, perhaps
    with a message about a new one, and then keys are pressed, the windows drawn and made larger or
    smaller, but never too small.  If the editor was not being left and does not go on after one more
    key, its documents stay as they are.  Any of them whose text is not the one it was opened or saved
    with last, and that has the mark of unsaved changes or something to undo, is as it was when the user
    was warned last, and the warning still stands; only the document that was active then and is active
    now may have been handled since. -/
theorem leaving_discards {session : Session} {world : World} {height width : Int} {e : Editor}
    (hstart : Editor.start session world height width = .ok e) {ds : List Document}
    (hds : ∀ d ∈ ds, d.Opened) {created : Option String} {turns : List Turn}
    (hroom : ∀ t ∈ turns, LeavesRoom t) {k another : Int}
    (hstays : ((start (e.openAll created ds)).turnAll turns).editor.leaving = false)
    (hends : (((start (e.openAll created ds)).turnAll turns).editor.press k another).result =
      .ok false) :
    let w := (start (e.openAll created ds)).turnAll turns
    w.editor = (e.openAll created ds).turnAll turns ∧
      (w.editor.press k another).state = { w.editor with leaving := true } ∧
      ∀ (i : Nat) (d : Document), w.editor.documents[i]? = some d →
        ∃ t, w.saved[i]? = some t ∧
          (d.text ≠ t → d.modified = true ∨ d.past ≠ [] →
            w.editor.IsWarned ∧ ∃ e₀ d₀, w.warned = some e₀ ∧ e₀.documents[i]? = some d₀ ∧
              (d = d₀ ∨ (i = w.editor.active ∧ e₀.active = w.editor.active ∧
                ReflTransGen Document.Handled d₀ d))) := by
  intro w
  have hsound : w.Sound := by
    obtain ⟨horderly, hclosed⟩ := Orderly.start hstart
    obtain ⟨hnone, -⟩ := start_eq_ok hstart
    have hquiet := not_isWarned_openAll (message_start hstart) created ds
    exact .turnAll (.start (horderly.openAll hclosed created hds) hnone hquiet hds) hroom
  have hanswers := answers_press (fun d hd => hsound.orderly.inside d (mem_of_document? hd)) k another
  obtain ⟨hstate, hasked⟩ := hanswers.left hstays (leaving_of_result hends)
  refine ⟨editor_turnAll _ turns, hstate, fun i d hd => ?_⟩
  obtain ⟨t, ht, htells⟩ := hsound.tells i d hd
  exact ⟨t, ht, fun hne hknown => hsound.discards hasked hd htells hne hknown⟩

/-- One of two documents is typed into before the warning and after it, and the windows are drawn in
    between. -/
theorem leaving_discards_one_of_two :
    let e : Editor := { onDocument (.ofText []) with documents := [] }
    let ds := [Document.ofText "7".toList, Document.ofText []]
    let turns : List Turn := [.press 97 0, .press 24 0, .refresh fun _ => .none, .press 98 0]
    let w := (start (e.openAll (some "f") ds)).turnAll turns
    Editor.start e.session e.world 16 40 = .ok e ∧ (w.editor.press 24 0).result = .ok false ∧
      w.saved = ["7".toList, []] ∧ w.editor.documents.map (·.text) = ["7".toList, "ab".toList] ∧
        w.editor.IsWarned ∧ ∃ e₀ d₀, w.warned = some e₀ ∧ e₀.documents[1]? = some d₀ := by
  intro e ds turns w
  have hstart : Editor.start e.session e.world 16 40 = .ok e := rfl
  have hopened : ∀ d ∈ ds, d.Opened := by
    intro d hd
    rcases List.mem_cons.1 hd with rfl | hd
    · exact .fresh _
    · obtain rfl := List.mem_singleton.1 hd
      exact .fresh _
  have hroom : ∀ t ∈ turns, LeavesRoom t := by
    simp only [turns, List.forall_mem_cons]
    exact ⟨trivial, trivial, trivial, trivial, nofun⟩
  have hstays : w.editor.leaving = false := by decide +kernel
  have hends : (w.editor.press 24 0).result = .ok false := by decide +kernel
  have htexts : w.editor.documents.map (·.text) = ["7".toList, "ab".toList] := by decide +kernel
  have hsaved : w.saved = ["7".toList, []] := by decide +kernel
  obtain ⟨d, hd, htext, hmarked⟩ :
      ∃ d, w.editor.documents[1]? = some d ∧ d.text = "ab".toList ∧ d.modified = true :=
    ⟨{ Document.ofText "ab".toList with
        column := 2, past := [.line 0 ['a'] ['a', 'b'], .line 0 [] ['a']], modified := true },
      by decide +kernel, rfl, rfl⟩
  obtain ⟨t, ht, htells⟩ := (leaving_discards hstart hopened hroom hstays hends).2.2 1 d hd
  rw [hsaved] at ht
  obtain rfl : [] = t := Option.some.inj ht
  obtain ⟨hstands, e₀, d₀, he₀, hd₀, -⟩ := htells (by rw [htext]; decide) (.inl hmarked)
  exact ⟨hstart, hends, hsaved, htexts, hstands, e₀, d₀, he₀, hd₀⟩

/-- What is typed after the warning is discarded with what was warned of. -/
theorem discarded_unwarned :
    let e : Editor := { onDocument (.ofText []) with documents := [] }
    let w := (start (e.openAll none [.ofText []])).turnAll [.press 97 0, .press 24 0, .press 98 0]
    (w.editor.press 24 0).result = .ok false ∧ w.saved = [[]] ∧
      w.editor.documents.map (·.text) = [['a', 'b']] ∧
        w.warned.map (fun e₀ => e₀.documents.map (·.text)) = some [['a']] := by
  decide +kernel

end Watched

end Respell
