/-
  What a key can do.

  1. **The steps of a document** (`Document.Pressed`).  A key moves the cursor, types, deletes, breaks a
     line, applies an edit set, undoes, redoes or saves, and that is all that it ever does to a
     document.  A key that fails leaves behind what one of these steps leaves behind.

  2. **One key** (`Editor.touches_press`).  Whatever the key and wherever the dialog stands, the height
     of the screen stays, and so does every document but the active one, which takes one of the steps.
     Everything that is to hold of the documents after a key is a matter of these steps alone.  The
     number of rows that a page has is a part of the step only where a page is turned
     (`Editor.touches_press_rows`).

  3. **A run** (`Editor.pressAll`) presses one key after another, whether they fail or not.
-/
import Respell.Editor.Keys

namespace Respell

/-! ## The steps of a document -/

/-- What a key can make of the active document in an editor whose pages have a number of rows. -/
inductive Document.Pressed (rows : Int) (d : Document) : Document → Prop where
  | left : Pressed rows d d.moveLeft
  | right : Pressed rows d d.moveRight
  | up : Pressed rows d d.moveUp
  | down : Pressed rows d d.moveDown
  | lineStart : Pressed rows d d.moveToLineStart
  | lineEnd : Pressed rows d d.moveToLineEnd
  | pageUp : Pressed rows d (d.pageUp rows)
  | pageDown : Pressed rows d (d.pageDown rows)
  | goTo (l : Literal) : Pressed rows d (Navigation.goTo d l)
  | type (t : Text) : '\n' ∉ t → Pressed rows d (d.type t).state
  | breakLine : Pressed rows d d.breakLine.state
  | deleteForward : Pressed rows d d.deleteForward.state
  | deleteBackward : Pressed rows d d.deleteBackward.state
  | applyEdits (es : List Edit) : Pressed rows d (d.applyEdits es).state
  | undo : Pressed rows d d.undo.state
  | redo : Pressed rows d d.redo.state
  | save (name : String) : Pressed rows d { d with filename := some name, modified := false }

theorem Attempt.state_andThen_done {σ ε α β : Type} (x : Attempt σ ε α) (f : α → β) :
    (x.andThen fun s a => .done s (f a)).state = x.state := by
  unfold andThen
  cases x.result <;> rfl

theorem Document.state_save {d d' : Document} {fs fs' : Files} {name : Option String}
    (h : d.save fs name = .ok (some (d', fs'))) :
    ∃ n, d' = { d with filename := some n, modified := false } := by
  unfold save at h
  split at h
  · cases h
  · rename_i n _
    cases hw : fs.write n d.content with
    | error x => rw [hw] at h; cases h
    | ok fs'' =>
      rw [hw] at h
      obtain ⟨rfl, rfl⟩ := Prod.mk.inj (Option.some.inj (Except.ok.inj h))
      exact ⟨n, rfl⟩

/-- A document takes on edits, made or not, in one step or in none. -/
theorem Session.state_applyMade (d : Document) (made : Except Failure (List Edit)) :
    ∃ es, (applyMade d made).state = (d.applyEdits es).state := by
  cases made with
  | error x => exact ⟨[], rfl⟩
  | ok es =>
    refine ⟨es, ?_⟩
    unfold applyMade
    dsimp only
    split <;> (rename_i h; rw [h]; rfl)

theorem Session.state_replace (s : Session) (d : Document) (r : Request) :
    ∃ es, (s.replace d r).state = (d.applyEdits es).state := by
  unfold replace
  cases s.requestEdits d r with
  | error x => exact ⟨[], rfl⟩
  | ok made =>
    cases made with
    | none => exact ⟨[], rfl⟩
    | some es => exact state_applyMade d (.ok es)

/-- Whether a command turns a page. -/
def Command.turnsPage (c : Command) : Bool := c = .pageUp || c = .pageDown

namespace Editor

/-! ## What one key touches -/

/-- Whether the active index is that of a document. -/
def HasActive (e : Editor) : Prop := 0 ≤ e.active ∧ e.active < e.documents.length

/-- Whether at most the active document differs in another editor, by one step with pages of a number
    of rows, on a screen of the same height.  The active index is the same or that of a document. -/
structure Touches (rows : Int) (e e' : Editor) : Prop where
  height : e'.height = e.height
  active : e'.active = e.active ∨ e'.HasActive
  documents : e'.documents = e.documents ∨
    ∃ d d', e.document? = some d ∧ d.Pressed rows d' ∧ e'.documents = (e.setDocument d').documents

variable {rows : Int} {e e' e'' : Editor} {d d' : Document}

theorem mem_of_document? (h : e.document? = some d) : d ∈ e.documents := by
  unfold document? at h
  split at h
  · cases h
  · exact List.mem_of_getElem? h

namespace Touches

theorem refl (rows : Int) (e : Editor) : Touches rows e e := ⟨rfl, .inl rfl, .inl rfl⟩

/-- What else changes does not matter. -/
theorem congr (h : Touches rows e e') (hheight : e''.height = e'.height)
    (hactive : e''.active = e'.active) (hdocuments : e''.documents = e'.documents) :
    Touches rows e e'' := by
  refine ⟨hheight.trans h.height, ?_, hdocuments ▸ h.documents⟩
  rw [HasActive, hactive, hdocuments]
  exact h.active

theorem step (h : e.document? = some d) (hd : d.Pressed rows d') :
    Touches rows e (e.setDocument d') :=
  ⟨rfl, .inl rfl, .inr ⟨d, d', h, hd, rfl⟩⟩

/-- No key opens a document or closes one. -/
theorem length_documents (h : Touches rows e e') : e'.documents.length = e.documents.length := by
  rcases h.documents with hsame | ⟨d, d', -, -, hset⟩
  · rw [hsame]
  · rw [hset]
    exact List.length_set

/-- What a step keeps of a document holds of all documents. -/
theorem forall_documents {P : Document → Prop} (h : Touches rows e e')
    (hstep : ∀ d d', P d → d.Pressed rows d' → P d') (hall : ∀ d ∈ e.documents, P d) :
    ∀ d ∈ e'.documents, P d := by
  intro d hd
  rcases h.documents with hsame | ⟨d₀, d', h₀, hpressed, hset⟩
  · exact hall d (hsame ▸ hd)
  · rw [hset] at hd
    rcases List.mem_or_eq_of_mem_set hd with hd | rfl
    · exact hall d hd
    · exact hstep d₀ d (hall d₀ (mem_of_document? h₀)) hpressed

theorem pageHeight (h : Touches rows e e') : e'.pageHeight = e.pageHeight := by
  rw [Editor.pageHeight, Editor.pageHeight, h.height]

/-- If there is an active document, there is one behind it. -/
theorem hasActive (h : Touches rows e e') (hactive : e.HasActive) : e'.HasActive := by
  rcases h.active with hsame | hactive'
  · rw [HasActive, hsame, h.length_documents]
    exact hactive
  · exact hactive'

end Touches

/-- An operation on the active document need be looked at only if there is one. -/
theorem touches_withDocument {f : Document → Action}
    (h : ∀ d, e.document? = some d → Touches rows e (f d).state) :
    Touches rows e (e.withDocument f).state := by
  unfold withDocument
  cases hd : e.document? with
  | none => exact .refl rows e
  | some d => exact h d hd

theorem touches_move {f : Document → Document} (h : ∀ d : Document, d.Pressed rows (f d)) :
    Touches rows e (e.move f).state :=
  touches_withDocument fun d hd => .step hd (h d)

theorem touches_change {f : Document → Attempt Document DocumentError Unit}
    (h : ∀ d : Document, d.Pressed rows (f d).state) : Touches rows e (e.change f).state :=
  touches_withDocument fun d hd => .step hd (h d)

theorem touches_stepHistory {f : Document → Attempt Document DocumentError Bool} {nothing : String}
    (h : ∀ d : Document, d.Pressed rows (f d).state) :
    Touches rows e (e.stepHistory f nothing).state := by
  refine touches_withDocument fun d hd => ?_
  have hstep : Touches rows e (e.setDocument (f d).state) := .step hd (h d)
  dsimp only
  split
  · exact hstep
  · exact hstep
  · exact hstep.congr rfl rfl rfl

/-- What is told of a failure changes no document. -/
theorem touches_recover (h : Touches rows e e') (hheight : e''.height = e'.height)
    (hactive : e''.active = e'.active) (hdocuments : e''.documents = e'.documents) (x : Failure)
    (lead : String) : Touches rows e (e''.recover x lead).state := by
  unfold recover
  split <;> exact h.congr hheight hactive hdocuments

theorem touches_save : Touches rows e e.save.state := by
  refine touches_withDocument fun d hd => ?_
  split
  · split
    · exact (Touches.refl rows e).congr rfl rfl rfl
    · exact .refl rows e
  · exact (Touches.refl rows e).congr rfl rfl rfl
  · rename_i d' files hsave
    obtain ⟨n, rfl⟩ := Document.state_save hsave
    exact (Touches.step hd (.save n)).congr rfl rfl rfl

/-- A pass in the next format is one edit set, whether it can be made or not. -/
theorem touches_toggleFormat : Touches rows e e.toggleFormat.state := by
  unfold toggleFormat
  dsimp only
  split
  · exact (Touches.refl rows e).congr rfl rfl rfl
  · rename_i d hd
    obtain ⟨es, hes⟩ := Session.state_applyMade d
      ((cycleEdits e.session.advance.format d.text).mapError .numeral)
    have hpressed : d.Pressed rows (e.session.advance.respellAll d).state := by
      rw [Session.respellAll, hes]
      exact .applyEdits es
    have hstep : Touches rows e (e.setDocument _) := .step hd hpressed
    split
    · exact touches_recover hstep (by rfl) (by rfl) (by rfl) _ _
    · exact hstep.congr rfl rfl rfl

theorem touches_toggleDecorations : Touches rows e e.toggleDecorations.state := by
  unfold toggleDecorations
  dsimp only
  split
  · exact touches_recover (Touches.refl rows e) (by rfl) (by rfl) (by rfl) _ _
  · exact (Touches.refl rows e).congr rfl rfl rfl

theorem touches_jump (search : Document → Except NumeralError (Option Literal)) :
    Touches rows e (e.jump search).state := by
  refine touches_withDocument fun d hd => ?_
  split
  · exact .refl rows e
  · exact (Touches.refl rows e).congr rfl rfl rfl
  · exact .step hd (.goTo _)

theorem touches_startConvert : Touches rows e e.startConvert.state := by
  refine touches_withDocument fun d hd => ?_
  split
  · exact .refl rows e
  · exact (Touches.refl rows e).congr rfl rfl rfl
  · exact (Touches.refl rows e).congr rfl rfl rfl

/-- Carrying a request out is one edit set too, worked out after the dialog has been closed. -/
theorem touches_executeConvert : Touches rows e e.executeConvert.state := by
  have hclose : Touches rows e e.closeDialog := (Touches.refl rows e).congr rfl rfl rfl
  unfold executeConvert
  dsimp only
  split
  · rename_i d r hd hr
    obtain ⟨es, hes⟩ := e.closeDialog.session.state_replace d r
    have hpressed : d.Pressed rows (e.closeDialog.session.replace d r).state := by
      rw [hes]
      exact .applyEdits es
    have hstep : Touches rows e (e.setDocument _) := .step hd hpressed
    split
    · exact touches_recover hstep (by rfl) (by rfl) (by rfl) _ _
    · exact hstep.congr rfl rfl rfl
  · exact hclose

/-! ## Every key -/

/-- Whether a key turns a page. -/
def turnsPage (e : Editor) (k : Int) : Bool :=
  !e.isConverting && (Command.ofKey? k).any Command.turnsPage

theorem touches_pressInDialog (k : Int) : Touches rows e (e.pressInDialog k).state := by
  unfold pressInDialog
  split
  · exact touches_executeConvert
  · split
    · exact (Touches.refl rows e).congr rfl rfl rfl
    · split
      · exact (Touches.refl rows e).congr rfl rfl rfl
      · split
        · exact .refl rows e
        · exact (Touches.refl rows e).congr rfl rfl rfl

/-- The number of rows that a page has matters to the commands that turn one, and to no others. -/
theorem touches_perform (c : Command) (hrows : c.turnsPage = true → rows = e.pageHeight) :
    Touches rows e (e.perform c).state := by
  cases c with
  | left => exact touches_move fun _ => .left
  | right => exact touches_move fun _ => .right
  | up => exact touches_move fun _ => .up
  | down => exact touches_move fun _ => .down
  | lineStart => exact touches_move fun _ => .lineStart
  | lineEnd => exact touches_move fun _ => .lineEnd
  | pageUp =>
    obtain rfl := hrows rfl
    exact touches_move fun _ => .pageUp
  | pageDown =>
    obtain rfl := hrows rfl
    exact touches_move fun _ => .pageDown
  | deleteForward => exact touches_change fun _ => .deleteForward
  | deleteBackward => exact touches_change fun _ => .deleteBackward
  | enter => exact touches_change fun _ => .breakLine
  | tab => exact touches_change fun _ => .type _ (by decide)
  | quit =>
    show Touches rows e e.quit
    unfold quit
    split <;> exact (Touches.refl rows e).congr rfl rfl rfl
  | save => exact touches_save
  | undo => exact touches_stepHistory fun _ => .undo
  | redo => exact touches_stepHistory fun _ => .redo
  | toggleFormat => exact touches_toggleFormat
  | toggleDecorations => exact touches_toggleDecorations
  | convert => exact touches_startConvert
  | next => exact touches_jump _
  | previous => exact touches_jump _

/-- A digit behind an escape names a document or does nothing. -/
theorem touches_pressEscape (another : Int) : Touches rows e (e.pressEscape another) := by
  unfold pressEscape switchTo
  split
  · split
    · exact .refl rows e
    · rename_i hlow
      split
      · exact .refl rows e
      · rename_i hd
        obtain ⟨hlt, -⟩ := List.getElem?_eq_some_iff.1 hd
        refine ⟨rfl, .inr ⟨?_, ?_⟩, .inl rfl⟩
        · exact Int.not_lt.1 hlow
        · show another - 49 < (e.documents.length : Int)
          omega
  · exact .refl rows e

/-- A printable character is no newline. -/
theorem newline_notMem_printable {k : Int} (hlow : 32 ≤ k) (hhigh : k ≤ 126) :
    '\n' ∉ [Char.ofNat k.toNat] := by
  have hnone : ∀ n ≤ 126, 32 ≤ n → '\n' ∉ [Char.ofNat n] := by decide
  exact hnone k.toNat (by omega) (by omega)

/-- **One key** touches the active document at most, and that by one step.  The number of rows that a
    page has matters only if the key turns one. -/
theorem touches_press_rows (k another : Int)
    (hrows : e.turnsPage k = true → rows = e.pageHeight) :
    Touches rows e (e.press k another).state := by
  unfold press
  split
  · rw [Attempt.state_andThen_done]
    exact touches_pressInDialog k
  · rename_i hclosed
    split
    · exact touches_pressEscape another
    · split
      · exact .refl rows e
      · rename_i c _ hc
        have hrows : c.turnsPage = true → rows = e.pageHeight := by
          intro hturns
          refine hrows ?_
          rw [turnsPage, hc, Bool.eq_false_iff.2 hclosed]
          exact hturns
        unfold Attempt.andThen
        split <;> exact touches_perform c hrows
      · split
        · rename_i hrange
          rw [Attempt.state_andThen_done]
          exact touches_change fun _ => .type _ (newline_notMem_printable hrange.1 hrange.2)
        · exact .refl rows e

theorem touches_press (e : Editor) (k another : Int) :
    Touches e.pageHeight e (e.press k another).state :=
  touches_press_rows k another fun _ => rfl

/-! ## Runs -/

/-- The editor after some keys, each with the one behind it that counts if it is an escape.  One that
    fails leaves behind what it left behind. -/
def pressAll (e : Editor) (keys : List (Int × Int)) : Editor :=
  keys.foldl (fun e k => (e.press k.1 k.2).state) e

theorem pageHeight_pressAll (e : Editor) (keys : List (Int × Int)) :
    (e.pressAll keys).pageHeight = e.pageHeight := by
  induction keys generalizing e with
  | nil => rfl
  | cons k keys ih => exact (ih _).trans (touches_press e k.1 k.2).pageHeight

/-- **A run keeps of every document what each step keeps of one.** -/
theorem forall_documents_pressAll {P : Document → Prop} (keys : List (Int × Int))
    (hstep : ∀ d d', P d → d.Pressed e.pageHeight d' → P d') (hall : ∀ d ∈ e.documents, P d) :
    ∀ d ∈ (e.pressAll keys).documents, P d := by
  -- on the keys, for every editor with pages of this height
  induction keys generalizing e with
  | nil => exact hall
  | cons k keys ih =>
    have htouches := touches_press e k.1 k.2
    refine ih ?_ (htouches.forall_documents hstep hall)
    rw [htouches.pageHeight]
    exact hstep

/-- The editor with a message about the last name under which there was nothing, if there is one. -/
def sayCreated (e : Editor) : Option String → Editor
  | none => e
  | some name => e.say (createdText name)

/-- The editor with some documents opened, one after another, of which one may be new under a name. -/
def openAll (e : Editor) (created : Option String) (ds : List Document) : Editor :=
  (ds.foldl addDocument e).sayCreated created

/-- What is said of a new document is all that it changes. -/
theorem sayCreated_eq (e : Editor) (created : Option String) :
    e.sayCreated created = { e with message := (e.sayCreated created).message } := by
  cases created <;> rfl

theorem foldl_addDocument_documents (e : Editor) (ds : List Document) :
    (ds.foldl addDocument e).documents = e.documents ++ ds := by
  induction ds generalizing e with
  | nil => exact (List.append_nil _).symm
  | cons d ds ih => exact (ih (e.addDocument d)).trans (List.append_assoc _ _ _)

theorem foldl_addDocument_height (e : Editor) (ds : List Document) :
    (ds.foldl addDocument e).height = e.height := by
  induction ds generalizing e with
  | nil => rfl
  | cons d ds ih => exact ih (e.addDocument d)

theorem openAll_documents (e : Editor) (created : Option String) (ds : List Document) :
    (e.openAll created ds).documents = e.documents ++ ds := by
  rw [openAll, sayCreated_eq]
  exact foldl_addDocument_documents e ds

theorem openAll_height (e : Editor) (created : Option String) (ds : List Document) :
    (e.openAll created ds).height = e.height := by
  rw [openAll, sayCreated_eq]
  exact foldl_addDocument_height e ds

end Editor

end Respell
