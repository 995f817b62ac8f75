/-
  What the keys do.

  1. **Commands.**  A key that is a command acts on the active document.  Any other key that is a
     printable ASCII character is typed.  Without an active document keys do nothing.

  2. **Escape** is followed by another key; a digit from one to nine makes the document of that
     number active.

  3. **The dialog** takes all keys while it is open: letters choose the base, the tab key the reach,
     the enter key carries the request out, and escape closes the dialog.

  4. **Failures** of the program's own rules become messages.  Any other failure is handed on, and
     what was done before it stays.  `press` answers whether the editor goes on.
-/
import Respell.Editor
import Respell.Document.Typing
import Respell.Navigation

namespace Respell

/-- What a key can mean outside the dialog. -/
inductive Command where
  | left
  | right
  | up
  | down
  | lineStart
  | lineEnd
  | pageUp
  | pageDown
  | deleteForward
  | deleteBackward
  | enter
  | tab
  | quit
  | save
  | undo
  | redo
  | toggleFormat
  | toggleDecorations
  | convert
  | next
  | previous
  deriving DecidableEq, Repr

namespace Command

/-- The key that a letter is with the control key. -/
def control (c : Char) : Int := c.toNat % 32

/-- The keys with their commands. -/
def keys : List (Int × Command) :=
  [(260, left), (261, right), (259, up), (258, down), (262, lineStart), (360, lineEnd),
   (339, pageUp), (338, pageDown), (330, deleteForward), (263, deleteBackward),
   (127, deleteBackward), (10, enter), (9, tab), (control 'x', quit), (control 'w', save),
   (control 'b', undo), (control 'y', redo), (control 't', toggleFormat),
   (control 'd', toggleDecorations), (control 'r', convert), (control 'n', next),
   (control 'p', previous)]

/-- The command of a key. -/
def ofKey? (k : Int) : Option Command := keys.lookup k

end Command

namespace Editor

/-- What an operation on the editor leaves behind, and whether it failed. -/
abbrev Action := Attempt Editor Failure Unit

/-- What the keys note. -/
def noteOf (level : Level) (message : String) : Note := ⟨level, "hexmate.ui.input_handler", message⟩

/-! ## Acting on the active document -/

/-- Acts on the active document, if there is one. -/
def withDocument (e : Editor) (f : Document → Action) : Action :=
  match e.document? with
  | none => .done e ()
  | some d => f d

/-- The editor with the active document moved in. -/
def move (e : Editor) (f : Document → Document) : Action :=
  e.withDocument fun d => .done (e.setDocument (f d)) ()

/-- The editor with the active document changed; a failure is handed on. -/
def change (e : Editor) (f : Document → Attempt Document DocumentError Unit) : Action :=
  e.withDocument fun d => ⟨e.setDocument (f d).state, (f d).result.mapError .ofDocument⟩

/-- Undoes or redoes, with a message if there is nothing to be done. -/
def stepHistory (e : Editor) (f : Document → Attempt Document DocumentError Bool)
    (nothing : String) : Action :=
  e.withDocument fun d =>
    let e := e.setDocument (f d).state
    match (f d).result with
    | .error x => .failed e (.ofDocument x)
    | .ok true => .done e ()
    | .ok false => .done (e.say nothing) ()

/-- What is said about a failure. -/
def errorText (message : String) : String := "Error: " ++ message

/-- Tells the user of a failure of the program's own rules, with a note; hands any other on. -/
def recover (e : Editor) (x : Failure) (lead : String) : Action :=
  if x.isOwn then
    .done ((e.note [noteOf .warning (lead ++ x.message)]).say (errorText x.message)) ()
  else .failed e x

/-! ## Leaving and saving -/

/-- What is said before unsaved work is lost. -/
def unsavedWarning : String :=
  "Buffer has unsaved changes. Press Ctrl+W to save or Ctrl+X again to discard changes."

/-- Asks to leave, which takes a second time if there is unsaved work. -/
def quit (e : Editor) : Editor :=
  if e.documents.any (·.modified) ∧ e.message.map (·.text) ≠ some unsavedWarning then
    e.say unsavedWarning
  else { e with leaving := true }

/-- Saves the active document, and tells the user if the system cannot. -/
def save (e : Editor) : Action :=
  e.withDocument fun d =>
    match d.save e.world.files none with
    | .error x =>
      if x.isOfSystem then .done (e.say (errorText (Failure.ofSaving x).message)) ()
      else .failed e (.ofSaving x)
    | .ok none => .done (e.say "Error: No filename") ()
    | .ok (some (d, files)) =>
      let e := { e.setDocument d with world := { e.world with files } }
      .done (e.say ("Saved " ++ d.filename.getD "")) ()

/-! ## Literals -/

/-- What is noted after a number of edits, if there are any. -/
def editNotes (d : Document) (r : Except Failure Nat) : List Note :=
  match r with
  | .ok (n + 1) => [d.editedNote (n + 1)]
  | _ => []

/-- Takes the next format and respells the active document in it. -/
def toggleFormat (e : Editor) : Action :=
  let s := e.session.advance
  let e := { e with session := s }.note [s.formatNote]
  let report (e : Editor) (n : Nat) : Editor :=
    e.say ("Number format: " ++ s.format.title ++ " (" ++ toString n ++ " converted)")
  match e.document? with
  | none => .done (report e 0) ()
  | some d =>
    let r := s.respellAll d
    let e := (e.setDocument r.state).note (editNotes d r.result)
    match r.result with
    | .error x => e.recover x "Number format toggle failed: "
    | .ok n => .done (report e n) ()

/-- Switches the decorations. -/
def toggleDecorations (e : Editor) : Action :=
  let r := e.session.toggleDecorations e.world.env e.world.files
  let e := { e with session := r.state.1, world := { e.world with files := r.state.2 } }
  match r.result with
  | .error x => e.recover (.settings x) "Could not save decorations setting: "
  | .ok on =>
    let saved := match Settings.resolve e.world.env e.session.settingsPath with
      | .ok p => [Settings.savedNote p]
      | .error _ => []
    .done ((e.note (saved ++ [Session.decorationsNote on])).say
      (if on then "Decorations enabled" else "Decorations disabled")) ()

/-- Goes to the literal that a search finds. -/
def jump (e : Editor) (search : Document → Except NumeralError (Option Literal)) : Action :=
  e.withDocument fun d =>
    match search d with
    | .error x => .failed e (.numeral x)
    | .ok none => .done (e.say "No numbers in buffer") ()
    | .ok (some l) => .done (e.setDocument (Navigation.goTo d l)) ()

/-! ## The dialog -/

/-- Opens the dialog for the literal at the cursor. -/
def startConvert (e : Editor) : Action :=
  e.withDocument fun d =>
    match Navigation.atCursor? d with
    | .error x => .failed e (.numeral x)
    | .ok none => .done (e.say "No number under cursor") ()
    | .ok (some l) =>
      .done ({ e with dialog := { e.dialog with target := some l } }.say
        "Convert mode. d/h/b/o: target, Tab: scope, Enter: convert, Esc: cancel") ()

/-- What is noted while a request is worked out. -/
def requestNotes (s : Session) (d : Document) (r : Request) : List Note :=
  match r.policy d.text (some d.cursor) with
  | .error _ => []
  | .ok none => [Session.noLiteralNote d]
  | .ok (some p) => p.notes s.guard d.text

/-- Closes the dialog and carries its request out. -/
def executeConvert (e : Editor) : Action :=
  let asked := e.request?
  let e := e.closeDialog
  match e.document?, asked with
  | some d, some r =>
    let work := e.session.replace d r
    let e := (e.setDocument work.state).note (requestNotes e.session d r ++ editNotes d work.result)
    match work.result with
    | .error x => e.recover x "Convert failed: "
    | .ok n =>
      let ending := if n = 1 then "." else "s."
      .done (e.say ("Converted " ++ toString n ++ " occurrence" ++ ending)) ()
  | _, _ => .done e ()

/-- The base that a key chooses in the dialog. -/
def chosenBase? (k : Int) : Option Base :=
  Base.all.find? fun b => (b.code.toList.head?.map fun c => (c.toNat : Int)) = some k

/-- A key while the dialog is open. -/
def pressInDialog (e : Editor) (k : Int) : Action :=
  if k = 10 then e.executeConvert
  else if k = 27 then .done e.closeDialog ()
  else if k = 9 then .done { e with dialog := { e.dialog with reach := e.dialog.reach.next } } ()
  else
    match chosenBase? k with
    | none => .done e ()
    | some base => .done { e with dialog := { e.dialog with base } } ()

/-! ## Keys -/

/-- The number of rows that a page has. -/
def pageHeight (e : Editor) : Int := codeHeight e.height

/-- Carries a command out. -/
def perform (e : Editor) : Command → Action
  | .left => e.move (·.moveLeft)
  | .right => e.move (·.moveRight)
  | .up => e.move (·.moveUp)
  | .down => e.move (·.moveDown)
  | .lineStart => e.move (·.moveToLineStart)
  | .lineEnd => e.move (·.moveToLineEnd)
  | .pageUp => e.move (·.pageUp e.pageHeight)
  | .pageDown => e.move (·.pageDown e.pageHeight)
  | .deleteForward => e.change (·.deleteForward)
  | .deleteBackward => e.change (·.deleteBackward)
  | .enter => e.change (·.breakLine)
  | .tab => e.change (·.type [' ', ' ', ' ', ' '])
  | .quit => .done e.quit ()
  | .save => e.save
  | .undo => e.stepHistory (·.undo) "Nothing to undo"
  | .redo => e.stepHistory (·.redo) "Nothing to redo"
  | .toggleFormat => e.toggleFormat
  | .toggleDecorations => e.toggleDecorations
  | .convert => e.startConvert
  | .next => e.jump Navigation.afterCursor?
  | .previous => e.jump Navigation.beforeCursor?

/-- The key with which another one has to be read. -/
def escape : Int := 27

/-- Whether a key is the first of two. -/
def needsAnother (e : Editor) (k : Int) : Bool := !e.isConverting && k = escape

/-- The key behind an escape. -/
def pressEscape (e : Editor) (another : Int) : Editor :=
  if 49 ≤ another ∧ another ≤ 57 then (e.switchTo (another - 49)).1 else e

/-- A key, and the one that follows it if it is an escape; the answer is whether the editor goes on.
-/
def press (e : Editor) (k another : Int) : Attempt Editor Failure Bool :=
  if e.isConverting then (e.pressInDialog k).andThen fun e _ => .done e true
  else if k = escape then .done (e.pressEscape another) true
  else
    match e.document?, Command.ofKey? k with
    | none, _ => .done e true
    | some _, some c => (e.perform c).andThen fun e _ => .done e (!e.leaving)
    | some _, none =>
      if 32 ≤ k ∧ k ≤ 126 then
        (e.change (·.type [Char.ofNat k.toNat])).andThen fun e _ => .done e true
      else .done e true

end Editor

end Respell
