/-
  The editor at a terminal.

  1. **Opening.**  The settings are read, then the files in order.  A name under which there is
     nothing becomes an empty document; without any name there is one empty document.

  2. **Turns.**  Before a key is read the editor follows the size of the terminal and is drawn.
     After an escape the second key is read without drawing again.  A turn in which nothing was
     pressed, or in which the terminal could not be read, changes nothing in the documents; an
     interruption ends the sitting.

  3. **The log** takes what the editor notes after each step.
-/
import Respell.CommandLine.Console
import Respell.Editor.Drawing

namespace Respell.CommandLine

/-- What happens at a terminal while it waits for a key. -/
inductive Event where
  /-- A key; minus one if nothing was pressed in time. -/
  | key (code : Int)
  | resized (height width : Int)
  /-- Seconds go by. -/
  | elapsed (seconds : Binary64)
  | unreadable
  | interrupted
  deriving DecidableEq, Repr

/-- An editor at a terminal. -/
structure Sitting where
  console : Console
  editor : Editor
  /-- The rows of the terminal. -/
  height : Int
  /-- The columns of the terminal. -/
  width : Int
  /-- A key that needs a second one, which has not come yet. -/
  pending : Option Int
  deriving DecidableEq, Repr

namespace Sitting

/-- Hands the notes of the editor to the log, and its files to the console. -/
def settle (s : Sitting) : Sitting :=
  let c := { s.console with files := s.editor.world.files }.note s.editor.notes
  { s with
    console := c
    editor := { s.editor with world := { s.editor.world with files := c.files }, notes := [] } }

/-- The sitting with another editor. -/
def withEditor (s : Sitting) (e : Editor) : Sitting := { s with editor := e }.settle

/-! ## Opening -/

/-- Opens a file. -/
def openFile (s : Sitting) (name : String) : Attempt Sitting Failure Unit :=
  if s.editor.world.files.doesExist name then
    let loaded := (Document.ofText []).load s.editor.world.files name
    match loaded.result with
    | .error e => .failed s (.file e)
    | .ok () =>
      let d := loaded.state
      .done (s.withEditor ((s.editor.note [d.loadedNote name]).addDocument d)) ()
  else
    let d := { Document.ofText [] with filename := some name }
    .done (s.withEditor ((s.editor.addDocument d).say (Editor.createdText name))) ()

/-- Opens files in order. -/
def openFiles (s : Sitting) : List String → Attempt Sitting Failure Unit
  | [] => .done s ()
  | name :: rest => (s.openFile name).andThen fun s _ => s.openFiles rest

/-- The sitting with an empty document if there is none. -/
def withAnyDocument (s : Sitting) : Sitting :=
  if s.editor.documents.isEmpty then s.withEditor (s.editor.addDocument (Document.ofText [])) else s

/-- Sits down with settings. -/
def startWith (c : Console) (settings : Settings) (path : Path) (clock : Binary64)
    (height width : Int) : Except Failure Sitting :=
  (Editor.start (.start settings (some path.toString)) ⟨c.env, c.files, clock⟩ height width).map
    fun e => ⟨c, e, height, width, none⟩

/-- Sits down at a terminal of a size, with files; the result is the sitting. -/
def start (c : Console) (config : Option (Given String)) (files : List String)
    (clock : Binary64) (height width : Int) : Attempt Console Failure Sitting :=
  (c.loadSettings config).andThen fun c settings =>
    match Settings.resolve c.env (config.bind Given.value?) with
    | .error e => .failed c (.settings e)
    | .ok path =>
      match startWith c settings path clock height width with
      | .error e => .failed c e
      | .ok s =>
        let opened := s.openFiles files
        ⟨opened.state.console, opened.result.map fun _ => opened.state.withAnyDocument⟩

/-! ## Turns -/

/-- The editor on the terminal as large as it is. -/
def fitted (s : Sitting) : Editor :=
  if s.editor.height = s.height ∧ s.editor.width = s.width then s.editor
  else s.editor.resize s.height s.width

/-- Draws before a key is read, unless it is the second key of two. -/
def draw (s : Sitting) (lexers : Document → Highlight.Lexer) : Attempt Sitting Failure Unit :=
  match s.pending with
  | some _ => .done s ()
  | none =>
    let drawn := s.fitted.refresh lexers
    ⟨s.withEditor drawn.state, drawn.result⟩

/-- What was drawn since the last time one looked. -/
def look (s : Sitting) : List Group × Sitting :=
  (s.editor.look.1, { s with editor := s.editor.look.2 })

/-- The sitting after the clock has gone on. -/
def wait (s : Sitting) (seconds : Binary64) : Sitting :=
  let world := { s.editor.world with clock := s.editor.world.clock.add seconds }
  { s with editor := { s.editor with world } }

/-- Presses a key, and a second one behind it. -/
def press (s : Sitting) (k another : Int) : Attempt Sitting Failure Bool :=
  let pressed := s.editor.press k another
  ⟨{ s with pending := none }.withEditor pressed.state, pressed.result⟩

/-- A key has come; the answer is whether the sitting goes on. -/
def receiveKey (s : Sitting) (k : Int) : Attempt Sitting Failure Bool :=
  match s.pending with
  | some first => s.press first k
  | none =>
    if k = -1 then .done s true
    else if s.editor.needsAnother k then .done { s with pending := some k } true
    else s.press k (-1)

/-- Something has happened; the answer is whether the sitting goes on. -/
def receive (s : Sitting) : Event → Attempt Sitting Failure Bool
  | .key k => s.receiveKey k
  | .resized height width => { s with height, width }.receiveKey (-1)
  | .elapsed seconds => (s.wait seconds).receiveKey (-1)
  | .unreadable => .done { s with pending := none } true
  | .interrupted => .done { s with pending := none } false

/-- Draws; if that succeeds, the answer is what there is to be seen. -/
def frame (s : Sitting) (lexers : Document → Highlight.Lexer) :
    Attempt Sitting Failure (List Group) :=
  (s.draw lexers).andThen fun s _ => .done s.look.2 s.look.1

/-- A sitting in which some things happen and then an interruption; beside its end, what was seen in
each turn. -/
def play (s : Sitting) (lexers : Document → Highlight.Lexer) :
    List Event → List (List Group) × Attempt Sitting Failure Unit
  | [] =>
    match s.frame lexers with
    | ⟨s, .error e⟩ => ([], .failed s e)
    | ⟨s, .ok seen⟩ => ([seen], .done s ())
  | event :: rest =>
    match s.frame lexers with
    | ⟨s, .error e⟩ => ([], .failed s e)
    | ⟨s, .ok seen⟩ =>
      match s.receive event with
      | ⟨s, .error e⟩ => ([seen], .failed s e)
      | ⟨s, .ok false⟩ => ([seen], .done s ())
      | ⟨s, .ok true⟩ =>
        let (later, ending) := s.play lexers rest
        (seen :: later, ending)

end Sitting

end Respell.CommandLine
