/-
  What keys leave alone.

  More than twenty commands look up the active document on their own, and the documents share one
  session.  This file says what a key can reach: the active document, and of the session what two
  commands are there to change.

  1. **What stands beside the documents** (`Editor.Aside`).  A command keeps the active index and the
     screen, and makes of the session what it is there to make of it (`aside_perform`): the same, the
     one with the next format, or the one with decorations switched.

  2. **One key** (`goes_press`).  A key goes one of five ways: to the dialog, behind an escape, nowhere,
     to a command, or into the text.  Only the two commands with sessions of their own change it
     (`Goes.keeps_session`), and only behind an escape the active index changes (`Goes.active`).  The
     dialog opens a window and shuts it, and the screen stays otherwise (`Goes.screen`).

  3. **Documents** (`Touches.getElem?_documents`).  A step of the active document leaves the others where
     they are.  A key that switches documents takes no step, and neither does one that only moves in
     the dialog (`Goes.documents`).

  4. **Runs** (`keys_leave_alone`).  What each key leaves alone a run leaves alone: a document that is
     never active stays as it was, in all that it holds.
-/
import Respell.Proofs.Leaving
import Respell.Proofs.Presses

namespace Respell

/-- What a command makes of a session. -/
inductive Command.Makes (s : Session) : Command → Session → Prop where
  | same (c : Command) : Makes s c s
  | format : Makes s .toggleFormat s.advance
  | decorations (on : Bool) : Makes s .toggleDecorations (s.withDecorations on)

namespace Command.Makes

variable {s s' : Session} {c : Command}

theorem keeps_format (h : c.Makes s s') (hc : c ≠ .toggleFormat) : s'.format = s.format := by
  cases h with
  | same => rfl
  | format => exact absurd rfl hc
  | decorations on => rfl

theorem keeps_decorations (h : c.Makes s s') (hc : c ≠ .toggleDecorations) :
    s'.decorations = s.decorations ∧ s'.settings = s.settings := by
  cases h with
  | same => exact ⟨rfl, rfl⟩
  | format => exact ⟨rfl, rfl⟩
  | decorations on => exact absurd rfl hc

theorem keeps_settingsPath (h : c.Makes s s') : s'.settingsPath = s.settingsPath := by
  cases h <;> rfl

end Command.Makes

/-- A command that a key has stands beside it in the list. -/
theorem Command.mem_keys {k : Int} {c : Command} (h : ofKey? k = some c) : (k, c) ∈ keys := by
  obtain ⟨front, behind, hkeys, -⟩ := List.lookup_eq_some_iff.1 h
  rw [hkeys]
  exact List.mem_append_right front List.mem_cons_self

/-- The format and the decorations have a key each. -/
theorem Command.eq_control {k : Int} {c : Command} (h : ofKey? k = some c) :
    (c = .toggleFormat → k = control 't') ∧ (c = .toggleDecorations → k = control 'd') := by
  have hkeys : ∀ x ∈ keys, (x.2 = .toggleFormat → x.1 = control 't') ∧
      (x.2 = .toggleDecorations → x.1 = control 'd') := by decide
  exact hkeys (k, c) (mem_keys h)

/-- Decorations are switched if the settings can be written. -/
theorem Session.makes_toggleDecorations (s : Session) (env : Environment) (fs : Files) :
    Command.Makes s .toggleDecorations (s.toggleDecorations env fs).state.1 := by
  unfold toggleDecorations
  dsimp only
  split
  · exact .same _
  · exact .decorations _

/-- The windows without that of the dialog. -/
def Windows.shut (ws : Windows) : Windows := { ws with dialog := none }

namespace Editor

variable {e e' e'' : Editor} {s : Session} {d : Document}

/-! ## Beside the documents -/

/-- Whether another editor is on the same screen, in the same windows but for the dialog's. -/
structure SameScreen (e e' : Editor) : Prop where
  height : e'.height = e.height
  width : e'.width = e.width
  windows : e'.windows.shut = e.windows.shut

/-- Whether another editor has a session, and the same active index on the same screen. -/
structure Aside (s : Session) (e e' : Editor) : Prop where
  session : e'.session = s
  active : e'.active = e.active
  screen : e.SameScreen e'

namespace SameScreen

theorem refl (e : Editor) : e.SameScreen e := ⟨rfl, rfl, rfl⟩

theorem trans (h : e.SameScreen e') (h' : e'.SameScreen e'') : e.SameScreen e'' :=
  ⟨h'.height.trans h.height, h'.width.trans h.width, h'.windows.trans h.windows⟩

theorem code (h : e.SameScreen e') : e'.windows.code = e.windows.code :=
  show e'.windows.shut.code = e.windows.shut.code from congrArg Windows.code h.windows

end SameScreen

theorem Aside.refl (e : Editor) : Aside e.session e e := ⟨rfl, rfl, .refl e⟩

theorem aside_withDocument {f : Document → Action}
    (h : ∀ d, e.document? = some d → Aside e.session e (f d).state) :
    Aside e.session e (e.withDocument f).state := by
  unfold withDocument
  cases hd : e.document? with
  | none => exact .refl e
  | some d => exact h d hd

theorem aside_recover (h : Aside s e e') (x : Failure) (lead : String) :
    Aside s e (e'.recover x lead).state := by
  unfold recover
  split
  · exact ⟨h.session, h.active, h.screen.height, h.screen.width, h.screen.windows⟩
  · exact h

theorem aside_stepHistory (f : Document → Attempt Document DocumentError Bool) (nothing : String) :
    Aside e.session e (e.stepHistory f nothing).state := by
  refine aside_withDocument fun d _ => ?_
  dsimp only
  split <;> exact ⟨rfl, rfl, rfl, rfl, rfl⟩

theorem aside_save : Aside e.session e e.save.state := by
  refine aside_withDocument fun d _ => ?_
  split
  · split <;> exact ⟨rfl, rfl, rfl, rfl, rfl⟩
  · exact ⟨rfl, rfl, rfl, rfl, rfl⟩
  · exact ⟨rfl, rfl, rfl, rfl, rfl⟩

theorem aside_jump (search : Document → Except NumeralError (Option Literal)) :
    Aside e.session e (e.jump search).state := by
  refine aside_withDocument fun d _ => ?_
  split <;> exact ⟨rfl, rfl, rfl, rfl, rfl⟩

theorem aside_startConvert : Aside e.session e e.startConvert.state := by
  refine aside_withDocument fun d _ => ?_
  split <;> exact ⟨rfl, rfl, rfl, rfl, rfl⟩

/-- The next format is taken, whether the document can be respelled in it or not. -/
theorem aside_toggleFormat : Aside e.session.advance e e.toggleFormat.state := by
  unfold toggleFormat
  dsimp only
  split
  · exact ⟨rfl, rfl, rfl, rfl, rfl⟩
  · split
    · exact aside_recover ⟨by rfl, by rfl, by rfl, by rfl, by rfl⟩ _ _
    · exact ⟨rfl, rfl, rfl, rfl, rfl⟩

theorem aside_toggleDecorations :
    Aside (e.session.toggleDecorations e.world.env e.world.files).state.1 e
      e.toggleDecorations.state := by
  unfold toggleDecorations
  dsimp only
  split
  · exact aside_recover ⟨by rfl, by rfl, by rfl, by rfl, by rfl⟩ _ _
  · exact ⟨rfl, rfl, rfl, rfl, rfl⟩

theorem aside_quit : Aside e.session e e.quit := by
  unfold quit
  split <;> exact ⟨rfl, rfl, rfl, rfl, rfl⟩

/-- **A command** makes of the session what it is there to make of it, and no more. -/
theorem aside_perform (c : Command) :
    ∃ s, c.Makes e.session s ∧ Aside s e (e.perform c).state := by
  cases c with
  | toggleFormat => exact ⟨_, .format, aside_toggleFormat⟩
  | toggleDecorations => exact ⟨_, e.session.makes_toggleDecorations _ _, aside_toggleDecorations⟩
  | quit => exact ⟨_, .same _, aside_quit⟩
  | save => exact ⟨_, .same _, aside_save⟩
  | undo => exact ⟨_, .same _, aside_stepHistory _ _⟩
  | redo => exact ⟨_, .same _, aside_stepHistory _ _⟩
  | next => exact ⟨_, .same _, aside_jump _⟩
  | previous => exact ⟨_, .same _, aside_jump _⟩
  | convert => exact ⟨_, .same _, aside_startConvert⟩
  | left | right | up | down | lineStart | lineEnd | pageUp | pageDown | deleteForward | deleteBackward
    | enter | tab =>
    exact ⟨_, .same _, aside_withDocument fun _ _ => ⟨rfl, rfl, rfl, rfl, rfl⟩⟩

theorem aside_executeConvert : Aside e.session e e.executeConvert.state := by
  unfold executeConvert
  dsimp only
  split
  · split
    · exact aside_recover ⟨by rfl, by rfl, by rfl, by rfl, by rfl⟩ _ _
    · exact ⟨rfl, rfl, rfl, rfl, rfl⟩
  · exact ⟨rfl, rfl, rfl, rfl, rfl⟩

theorem aside_pressInDialog (k : Int) : Aside e.session e (e.pressInDialog k).state := by
  unfold pressInDialog
  split
  · exact aside_executeConvert
  · split
    · exact ⟨rfl, rfl, rfl, rfl, rfl⟩
    · split
      · exact ⟨rfl, rfl, rfl, rfl, rfl⟩
      · split
        · exact .refl e
        · exact ⟨rfl, rfl, rfl, rfl, rfl⟩

/-! ## One key -/

/-- The ways that a key can go. -/
inductive Goes (e : Editor) (k another : Int) : Editor → Prop where
  | inDialog : e.isConverting = true → Goes e k another (e.pressInDialog k).state
  | escaped : e.isConverting = false → k = escape → Goes e k another (e.pressEscape another)
  | unused : e.isConverting = false → k ≠ escape → Goes e k another e
  | command (c : Command) : e.isConverting = false → k ≠ escape → Command.ofKey? k = some c →
      Goes e k another (e.perform c).state
  | typed (t : Text) : e.isConverting = false → k ≠ escape →
      Goes e k another (e.change (·.type t)).state

/-- **Every key** goes one of these ways. -/
theorem goes_press (e : Editor) (k another : Int) : Goes e k another (e.press k another).state := by
  unfold press
  split
  · rename_i hopen
    rw [Attempt.state_andThen_done]
    exact .inDialog hopen
  · rename_i hopen
    have hclosed : e.isConverting = false := Bool.eq_false_iff.2 hopen
    split
    · rename_i hk
      exact .escaped hclosed hk
    · rename_i hk
      split
      · exact .unused hclosed hk
      · rename_i c _ hc
        have hstate : ((e.perform c).andThen fun e _ => .done e (!e.leaving)).state =
            (e.perform c).state := by
          unfold Attempt.andThen
          split <;> rfl
        rw [hstate]
        exact .command c hclosed hk hc
      · split
        · rw [Attempt.state_andThen_done]
          exact .typed _ hclosed hk
        · exact .unused hclosed hk

theorem aside_type (t : Text) : Aside e.session e (e.change (·.type t)).state :=
  aside_withDocument fun _ _ => ⟨rfl, rfl, rfl, rfl, rfl⟩

/-- Behind an escape another document can become active, and nothing else becomes of the editor than
    that this is said. -/
theorem pressEscape_keeps (another : Int) :
    (e.pressEscape another).documents = e.documents ∧
      (e.pressEscape another).session = e.session ∧ e.SameScreen (e.pressEscape another) := by
  unfold pressEscape switchTo
  split
  · split
    · exact ⟨rfl, rfl, rfl, rfl, rfl⟩
    · split <;> exact ⟨rfl, rfl, rfl, rfl, rfl⟩
  · exact ⟨rfl, rfl, rfl, rfl, rfl⟩

/-- In the dialog one key alone acts on a document. -/
theorem documents_pressInDialog {k : Int} (hk : k ≠ 10) :
    (e.pressInDialog k).state.documents = e.documents := by
  rw [pressInDialog, if_neg hk]
  split
  · rfl
  · split
    · rfl
    · split <;> rfl

namespace Goes

variable {k another : Int}

/-- An escape apart, a key makes something of the session if it is that of a command, and keeps the
    active index and the screen. -/
theorem aside (h : Goes e k another e') :
    (e.isConverting = false ∧ k = escape ∧ e' = e.pressEscape another) ∨
      ∃ s, Aside s e e' ∧ (s = e.session ∨
        e.isConverting = false ∧ ∃ c, Command.ofKey? k = some c ∧ c.Makes e.session s) := by
  cases h with
  | inDialog => exact .inr ⟨_, aside_pressInDialog k, .inl rfl⟩
  | escaped hclosed hk => exact .inl ⟨hclosed, hk, rfl⟩
  | unused => exact .inr ⟨_, .refl e, .inl rfl⟩
  | command c hclosed _ hc =>
    obtain ⟨s, hmakes, haside⟩ := e.aside_perform c
    exact .inr ⟨s, haside, .inr ⟨hclosed, c, hc, hmakes⟩⟩
  | typed t => exact .inr ⟨_, aside_type t, .inl rfl⟩

/-- The screen stays through every key. -/
theorem screen (h : Goes e k another e') : e.SameScreen e' := by
  rcases h.aside with ⟨-, -, rfl⟩ | ⟨s, haside, -⟩
  · exact (pressEscape_keeps another).2.2
  · exact haside.screen

/-- **The session** is what it was or what the command of the key makes of it, and what every such
    command keeps of it is kept. -/
theorem keeps_session {α : Type} (h : Goes e k another e') (f : Session → α)
    (hf : ∀ c s, e.isConverting = false → Command.ofKey? k = some c → c.Makes e.session s →
      f s = f e.session) : f e'.session = f e.session := by
  rcases h.aside with ⟨-, -, rfl⟩ | ⟨s, haside, hsame | ⟨hclosed, c, hc, hmakes⟩⟩
  · rw [(pressEscape_keeps another).2.1]
  · rw [haside.session, hsame]
  · rw [haside.session, hf c s hclosed hc hmakes]

/-- Only behind an escape another document can become active. -/
theorem active (h : Goes e k another e') (hne : e'.active ≠ e.active) :
    e.isConverting = false ∧ k = escape := by
  rcases h.aside with ⟨hclosed, hk, -⟩ | ⟨s, haside, -⟩
  · exact ⟨hclosed, hk⟩
  · exact absurd haside.active hne

/-- An escape acts on no document, and in the dialog one key alone acts on one. -/
theorem documents (h : Goes e k another e')
    (hk : if e.isConverting then k ≠ 10 else k = escape) : e'.documents = e.documents := by
  cases h with
  | inDialog hopen =>
    rw [if_pos hopen] at hk
    exact documents_pressInDialog hk
  | escaped => exact (pressEscape_keeps another).1
  | unused => rfl
  | command c hclosed hne =>
    rw [hclosed] at hk
    exact absurd hk hne
  | typed t hclosed hne =>
    rw [hclosed] at hk
    exact absurd hk hne

end Goes

/-! ## Documents -/

/-- A step of the active document leaves the others where they are. -/
theorem Touches.getElem?_documents {rows : Int} (h : Touches rows e e') {i : Nat}
    (hi : (i : Int) ≠ e.active) : e'.documents[i]? = e.documents[i]? := by
  rcases h.documents with hsame | ⟨d, d', hd, -, hset⟩
  · rw [hsame]
  · obtain ⟨hactive, -⟩ := getElem?_of_document? hd
    rw [hset, setDocument, List.getElem?_set_ne (by omega)]

/-- What a key leaves alone. -/
structure LeavesAlone (e : Editor) (k : Int) (e' : Editor) : Prop where
  /-- One of the documents is active. -/
  active : e'.HasActive
  /-- The other documents stay what they are. -/
  others : ∀ i : Nat, (i : Int) ≠ e.active → e'.documents[i]? = e.documents[i]?
  count : e'.documents.length = e.documents.length
  /-- A document becomes active behind an escape alone, outside the dialog. -/
  switches : e'.active ≠ e.active → e.isConverting = false ∧ k = escape
  /-- An escape changes no document, and in the dialog no key but the enter key does. -/
  documents : (if e.isConverting then k ≠ 10 else k = escape) → e'.documents = e.documents
  /-- No key changes the session in the dialog. -/
  inDialog : e.isConverting = true → e'.session = e.session
  format : k ≠ Command.control 't' → e'.session.format = e.session.format
  decorations : k ≠ Command.control 'd' → e'.session.decorations = e.session.decorations
  settings : k ≠ Command.control 'd' → e'.session.settings = e.session.settings
  settingsPath : e'.session.settingsPath = e.session.settingsPath

/-- **One key** leaves alone what it is not about. -/
theorem leavesAlone_press (h : e.HasActive) (k another : Int) :
    e.LeavesAlone k (e.press k another).state := by
  have htouches := touches_press e k another
  have hgoes := goes_press e k another
  refine ⟨htouches.hasActive h, fun i hi => htouches.getElem?_documents hi,
    htouches.length_documents, hgoes.active, hgoes.documents, ?_, ?_, ?_, ?_, ?_⟩
  · intro hopen
    refine hgoes.keeps_session id fun c s hclosed _ _ => ?_
    exact absurd hopen (Bool.eq_false_iff.1 hclosed)
  · intro hk
    refine hgoes.keeps_session (·.format) fun c s _ hc hmakes => hmakes.keeps_format ?_
    exact fun hformat => hk ((Command.eq_control hc).1 hformat)
  · intro hk
    refine hgoes.keeps_session (·.decorations) fun c s _ hc hmakes => (hmakes.keeps_decorations ?_).1
    exact fun hdecorations => hk ((Command.eq_control hc).2 hdecorations)
  · intro hk
    refine hgoes.keeps_session (·.settings) fun c s _ hc hmakes => (hmakes.keeps_decorations ?_).2
    exact fun hdecorations => hk ((Command.eq_control hc).2 hdecorations)
  · exact hgoes.keeps_session (·.settingsPath) fun c s _ _ hmakes => hmakes.keeps_settingsPath

/-! ## Runs -/

/-- A run keeps an active document. -/
theorem HasActive.pressAll (h : e.HasActive) (keys : List (Int × Int)) :
    (e.pressAll keys).HasActive := by
  induction keys generalizing e with
  | nil => exact h
  | cons k keys ih => exact ih ((touches_press e k.1 k.2).hasActive h)

/-- **What each key of a run leaves alone, the run leaves alone.** -/
theorem pressAll_keeps {α : Type} (f : Editor → α) {keys : List (Int × Int)}
    (hstep : ∀ (n : Nat) (hn : n < keys.length),
      f ((e.pressAll (keys.take n)).press keys[n].1 keys[n].2).state = f (e.pressAll (keys.take n))) :
    f (e.pressAll keys) = f e := by
  induction keys generalizing e with
  | nil => rfl
  | cons k keys ih =>
    have hfirst : f (e.press k.1 k.2).state = f e := hstep 0 (Nat.zero_lt_succ _)
    refine Eq.trans (ih fun n hn => ?_) hfirst
    exact hstep (n + 1) (Nat.succ_lt_succ hn)

/-- **Keys affect the active document only.**  An editor has an active document, and keys are pressed,
    each with another one behind it in case that it is an escape, whether they fail or not.

    Then one of the documents is active still.  Any one key more leaves every document but the one that
    is active in front of it what it is, in all that the document holds.  A key behind which another
    document is active is an escape, and it changes no document; while the dialog is open, no key but
    the enter key does.  The format stays unless the key is the one that switches it, and decorations
    and settings stay unless it is the one that switches decorations.  So a run leaves alone each
    document that is active in front of none of its keys, and what of the session none of its keys is
    there to change. -/
theorem keys_leave_alone (h : e.HasActive) (keys : List (Int × Int)) :
    (e.pressAll keys).HasActive ∧
      (∀ k another, (e.pressAll keys).LeavesAlone k ((e.pressAll keys).press k another).state) ∧
      (∀ i : Nat, (∀ n < keys.length, (i : Int) ≠ (e.pressAll (keys.take n)).active) →
        (e.pressAll keys).documents[i]? = e.documents[i]?) ∧
      ((∀ k ∈ keys, k.1 ≠ Command.control 't') →
        (e.pressAll keys).session.format = e.session.format) ∧
      ((∀ k ∈ keys, k.1 ≠ Command.control 'd') →
        (e.pressAll keys).session.decorations = e.session.decorations ∧
        (e.pressAll keys).session.settings = e.session.settings) := by
  have halone : ∀ front k another,
      (e.pressAll front).LeavesAlone k ((e.pressAll front).press k another).state :=
    fun front k another => leavesAlone_press (h.pressAll front) k another
  refine ⟨h.pressAll keys, halone keys, ?_, ?_, ?_⟩
  · intro i hi
    exact pressAll_keeps (·.documents[i]?) fun n hn => (halone _ _ _).others i (hi n hn)
  · intro hkeys
    exact pressAll_keeps (·.session.format) fun n hn =>
      (halone _ _ _).format (hkeys _ (List.getElem_mem hn))
  · intro hkeys
    constructor
    · exact pressAll_keeps (·.session.decorations) fun n hn =>
        (halone _ _ _).decorations (hkeys _ (List.getElem_mem hn))
    · exact pressAll_keeps (·.session.settings) fun n hn =>
        (halone _ _ _).settings (hkeys _ (List.getElem_mem hn))

/-- Two documents are open, and a letter is typed in the second before the format is switched. -/
theorem keys_leave_alone_first :
    let e := (onDocument (.ofText ['1'])).addDocument (.ofText ['2'])
    let keys : List (Int × Int) := [('a'.toNat, 0), (Command.control 't', 0)]
    e.HasActive ∧ (e.pressAll keys).HasActive ∧
      (e.pressAll keys).documents[0]? = some (.ofText ['1']) ∧
      (e.pressAll keys).session.decorations = true ∧
      ((e.pressAll keys).press escape '1'.toNat).state.documents = (e.pressAll keys).documents := by
  intro e keys
  have h : e.HasActive := ⟨by decide, by decide⟩
  obtain ⟨hactive, halone, hothers, -, hdecorations⟩ := keys_leave_alone h keys
  refine ⟨h, hactive, (hothers 0 (by decide +kernel)).trans rfl,
    (hdecorations (by decide)).1.trans rfl, ?_⟩
  exact (halone escape '1'.toNat).documents (by decide +kernel)

end Editor

end Respell
