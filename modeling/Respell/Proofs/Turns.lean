/-
  What happens to an editor.

  An editor does not only take keys.  In between the terminal changes its size, the windows are drawn,
  the clock goes on, and what was noted is taken away.

  1. **One turn** is one of these things, and a run is turn after turn (`Editor.turnAll`).  A turn that
     fails leaves behind what it left behind, and the run goes on.

  2. **Keys alone work on documents.**  Another size and a drawing leave the documents, the active one
     and the dialog as they are (`sameWork_resize`, `sameWork_refresh`).  The size changes the number of
     rows that a page has from then on, too small a screen or not (`height_resize`).

  3. **Order** (`Orderly.turnAll`).  If the screen never becomes too small, all cursors stand inside
     their documents, the dialog is about what stands there, and one of the documents is active.

  4. **At a terminal** (`Sitting.exists_hasOpened`).  A sitting begins with an editor that has just started
     and in which documents were opened, the last of the new ones with a message about it.
-/
import Respell.CommandLine.Sitting
import Respell.Proofs.Dialog

namespace Respell

/-- Something that happens to an editor. -/
inductive Turn where
  /-- A key, and the one that follows it if it is an escape. -/
  | press (k another : Int)
  /-- The terminal has another size. -/
  | resize (height width : Int)
  /-- All windows are drawn, with the lexers of documents. -/
  | refresh (lexers : Document → Highlight.Lexer)
  /-- The clock goes on, files change, and notes are taken away. -/
  | outside (world : World) (notes : List Note)

namespace Editor

variable {e e' : Editor}

/-- The editor after a turn, whether it failed or not. -/
def turn (e : Editor) : Turn → Editor
  | .press k another => (e.press k another).state
  | .resize height width => e.resize height width
  | .refresh lexers => (e.refresh lexers).state
  | .outside world notes => { e with world, notes }

/-- The editor after some turns. -/
def turnAll (e : Editor) (turns : List Turn) : Editor := turns.foldl turn e

/-! ## What keys alone can change -/

/-- Whether two editors work on the same documents, with the same one active and the same dialog. -/
structure SameWork (e e' : Editor) : Prop where
  documents : e'.documents = e.documents
  active : e'.active = e.active
  dialog : e'.dialog = e.dialog

theorem SameWork.document? (h : e.SameWork e') : e'.document? = e.document? := by
  rw [Editor.document?, Editor.document?, h.documents, h.active]

theorem sameWork_resize (height width : Int) : e.SameWork (e.resize height width) := by
  unfold resize
  dsimp only
  split <;> exact ⟨rfl, rfl, rfl⟩

theorem sameWork_refresh (lexers : Document → Highlight.Lexer) :
    e.SameWork (e.refresh lexers).state ∧ (e.refresh lexers).state.height = e.height := by
  have hwindow : e.SameWork (if e.isConverting then e.withDialogWindow else e) ∧
      (if e.isConverting then e.withDialogWindow else e).height = e.height := by
    split <;> exact ⟨⟨rfl, rfl, rfl⟩, rfl⟩
  unfold refresh
  generalize (if e.isConverting then e.withDialogWindow else e) = e₁ at hwindow ⊢
  obtain ⟨⟨hdocuments, hactive, hdialog⟩, hheight⟩ := hwindow
  dsimp only
  split
  · exact ⟨⟨hdocuments, hactive, hdialog⟩, hheight⟩
  · split <;> exact ⟨⟨hdocuments, hactive, hdialog⟩, hheight⟩

theorem height_resize (height width : Int) : (e.resize height width).height = height := by
  unfold resize
  dsimp only
  split <;> rfl

/-! ## Order -/

theorem codeHeight_nonneg {height : Int} (h : leastHeight ≤ height) : 0 ≤ codeHeight height := by
  unfold leastHeight at h
  rw [codeHeight, panelHeight]
  omega

/-- Whether all cursors of an editor stand inside, its dialog is about what stands there, one of its
    documents is active, if there are any, and the screen has room for a page. -/
structure Orderly (e : Editor) : Prop where
  inside : ∀ d ∈ e.documents, d.CursorInside
  current : e.Current
  active : e.documents ≠ [] → e.HasActive
  rows : 0 ≤ e.pageHeight

/-- Whether a turn does not make the screen too small. -/
def LeavesRoom : Turn → Prop
  | .resize height width => isTooSmall height width = false
  | _ => True

namespace Orderly

/-- Other windows, messages and notes do not matter. -/
theorem congr (h : e.Orderly) (hsame : e.SameWork e') (hrows : 0 ≤ e'.pageHeight) : e'.Orderly := by
  refine ⟨hsame.documents ▸ h.inside, ?_, ?_, hrows⟩
  · intro l hl
    rw [hsame.document?]
    exact h.current l (hsame.dialog ▸ hl)
  · rw [HasActive, hsame.documents, hsame.active]
    exact h.active

theorem press (h : e.Orderly) (k another : Int) : (e.press k another).state.Orderly := by
  have htouches := touches_press e k another
  refine ⟨?_, h.current.press k another, ?_, ?_⟩
  · exact htouches.forall_documents (fun _ _ hd hpressed => hd.pressed h.rows hpressed) h.inside
  · intro hne
    refine htouches.hasActive (h.active ?_)
    rw [← List.length_pos_iff, ← htouches.length_documents]
    exact List.length_pos_iff.2 hne
  · rw [htouches.pageHeight]
    exact h.rows

/-- **One turn** keeps an editor in order, unless it makes the screen too small. -/
theorem turn (h : e.Orderly) {t : Turn} (ht : LeavesRoom t) : (e.turn t).Orderly := by
  cases t with
  | press k another => exact h.press k another
  | resize height width =>
    refine h.congr (sameWork_resize height width) ?_
    simp only [LeavesRoom, isTooSmall, Bool.or_eq_false_iff, decide_eq_false_iff_not, Int.not_lt] at ht
    show 0 ≤ codeHeight (e.resize height width).height
    rw [height_resize]
    exact codeHeight_nonneg ht.1
  | refresh lexers =>
    obtain ⟨hsame, hheight⟩ := sameWork_refresh (e := e) lexers
    refine h.congr hsame ?_
    show 0 ≤ codeHeight (e.refresh lexers).state.height
    rw [hheight]
    exact h.rows
  | outside world notes => exact h.congr ⟨rfl, rfl, rfl⟩ h.rows

/-- **A run** keeps it in order on a screen that is never too small. -/
theorem turnAll (h : e.Orderly) {turns : List Turn} (hroom : ∀ t ∈ turns, LeavesRoom t) :
    (e.turnAll turns).Orderly := by
  induction turns generalizing e with
  | nil => exact h
  | cons t turns ih =>
    exact ih (h.turn (hroom t List.mem_cons_self)) fun t' ht' => hroom t' (List.mem_cons_of_mem t ht')

theorem addDocument (h : e.Orderly) {d : Document} (hd : d.CursorInside)
    (hclosed : e.dialog.target = none) : (e.addDocument d).Orderly := by
  refine ⟨?_, .of_closed hclosed, fun _ => ⟨?_, ?_⟩, h.rows⟩
  · exact List.forall_mem_append.2 ⟨h.inside, List.forall_mem_singleton.2 hd⟩
  · exact Int.natCast_nonneg _
  · show (e.documents.length : Int) < (e.documents ++ [d]).length
    rw [List.length_append, List.length_singleton]
    omega

theorem openAll (h : e.Orderly) (hclosed : e.dialog.target = none) (created : Option String)
    {ds : List Document} (hds : ∀ d ∈ ds, d.Opened) : (e.openAll created ds).Orderly := by
  induction ds generalizing e with
  | nil =>
    -- a message does not matter
    rw [Editor.openAll, sayCreated_eq]
    exact h.congr ⟨rfl, rfl, rfl⟩ h.rows
  | cons d ds ih =>
    have hd : d.CursorInside := (hds d List.mem_cons_self).sound.inside
    exact ih (h.addDocument hd hclosed) hclosed fun d' hd' => hds d' (List.mem_cons_of_mem d hd')

/-- An editor is in order when it starts. -/
theorem start {session : Session} {world : World} {height width : Int}
    (h : start session world height width = .ok e) : e.Orderly ∧ e.dialog.target = none := by
  obtain ⟨hnone, hheight, hrows, -⟩ := start_eq_ok h
  have hclosed : e.dialog.target = none := by
    unfold Editor.start at h
    split at h
    · cases h
    · obtain rfl := Except.ok.inj h
      rfl
  refine ⟨⟨?_, .of_closed hclosed, absurd hnone, ?_⟩, hclosed⟩
  · rw [hnone]
    exact fun d hd => absurd hd List.not_mem_nil
  · rw [pageHeight, hheight]
    exact codeHeight_nonneg hrows

end Orderly

/-! ## At a terminal -/

/-- Whether an editor comes from another one by opening documents, and by what happens outside. -/
def HasOpened (e e' : Editor) : Prop :=
  ∃ created ds, (∀ d ∈ ds, d.Opened) ∧
    ∃ world notes, e' = (e.openAll created ds).turn (.outside world notes)

namespace HasOpened

theorem refl (e : Editor) : HasOpened e e := ⟨none, [], nofun, e.world, e.notes, rfl⟩

theorem outside (h : HasOpened e e') (world : World) (notes : List Note) :
    HasOpened e (e'.turn (.outside world notes)) := by
  obtain ⟨created, ds, hds, world', notes', rfl⟩ := h
  exact ⟨created, ds, hds, world, notes, rfl⟩

/-- One more document. -/
theorem addDocument (h : HasOpened e e') {d : Document} (hd : d.Opened) :
    HasOpened e (e'.addDocument d) := by
  obtain ⟨created, ds, hds, world, notes, rfl⟩ := h
  have hmore : ∀ d' ∈ ds ++ [d], d'.Opened :=
    List.forall_mem_append.2 ⟨hds, List.forall_mem_singleton.2 hd⟩
  refine ⟨created, ds ++ [d], hmore, world, notes, ?_⟩
  rw [Editor.openAll, Editor.openAll, List.foldl_append]
  cases created <;> rfl

/-- A message about the document that was opened last. -/
theorem say (h : HasOpened e e') (name : String) : HasOpened e (e'.say (createdText name)) := by
  obtain ⟨created, ds, hds, world, notes, rfl⟩ := h
  refine ⟨some name, ds, hds, world, notes, ?_⟩
  rw [Editor.openAll, sayCreated_eq]
  rfl

end HasOpened

end Editor

namespace CommandLine.Sitting

open Editor (HasOpened)

variable {e : Editor} {s : Sitting} {c : Console}

/-- Handing notes and files on is something that happens outside. -/
theorem hasOpened_withEditor {e' : Editor} (h : HasOpened e e') (s : Sitting) :
    HasOpened e (s.withEditor e').editor := h.outside _ _

theorem hasOpened_openFile (h : HasOpened e s.editor) (name : String) :
    HasOpened e (s.openFile name).state.editor := by
  unfold openFile
  split
  · dsimp only
    split
    · exact h
    · -- what is noted of the file is something that happens outside
      exact hasOpened_withEditor ((h.outside s.editor.world _).addDocument (.loaded _ name (.fresh []))) s
  · exact hasOpened_withEditor ((h.addDocument (.named [] name)).say name) s

theorem hasOpened_openFiles (h : HasOpened e s.editor) (names : List String) :
    HasOpened e (s.openFiles names).state.editor := by
  induction names generalizing s with
  | nil => exact h
  | cons name names ih =>
    have hopened := hasOpened_openFile h name
    unfold openFiles Attempt.andThen
    split
    · exact ih hopened
    · exact hopened

theorem hasOpened_withAnyDocument (h : HasOpened e s.editor) :
    HasOpened e s.withAnyDocument.editor := by
  unfold withAnyDocument
  split
  · exact hasOpened_withEditor (h.addDocument (.fresh [])) s
  · exact h

/-- **A sitting** begins with documents that were opened in an editor that had just started. -/
theorem exists_hasOpened {config : Option (Given String)} {files : List String} {clock : Binary64}
    {height width : Int} (h : (start c config files clock height width).result = .ok s) :
    ∃ session world e, Editor.start session world height width = .ok e ∧ HasOpened e s.editor := by
  unfold start Attempt.andThen at h
  split at h
  · dsimp only at h
    split at h
    · cases h
    · split at h
      · cases h
      · rename_i hs₀
        obtain ⟨e, hstart, rfl⟩ := exists_of_map_eq_ok hs₀
        obtain ⟨-, -, rfl⟩ := exists_of_map_eq_ok h
        exact ⟨_, _, e, hstart, hasOpened_withAnyDocument (hasOpened_openFiles (.refl e) files)⟩
  · cases h

end CommandLine.Sitting

end Respell
