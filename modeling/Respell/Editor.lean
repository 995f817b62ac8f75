/-
  The editor: open documents, the one that is active, and what its windows show.

  1. **Documents** stand in the order in which they were opened.  The active one is named by an
     index, which may name none.

  2. **The screen** has five windows from top to bottom: tabs, line numbers beside the code, a panel
     for the literal at the cursor, and the status.  It has to have at least 16 rows and 40 columns.
     A screen that becomes smaller keeps its windows.

  3. **The message** in the status is shown for three seconds.  They begin with the first drawing
     after it was set, which does not show it yet; from the second drawing on it is seen.

  4. **The dialog** is about one literal, its target.  It has a base and a scope, which stay as they
     are when it is closed.
-/
import Respell.Screen
import Respell.Session

namespace Respell

/-- Which literals the dialog is about. -/
inductive Reach where
  /-- The target alone. -/
  | this
  /-- All literals of the same spelling. -/
  | sameSpelling
  /-- All literals of the same value. -/
  | sameValue
  deriving DecidableEq, Repr

namespace Reach

/-- The name of a reach on the screen. -/
def title : Reach → String
  | this => "This"
  | sameSpelling => "All"
  | sameValue => "All ≡"

/-- The reach after a reach in their cycle. -/
def next : Reach → Reach
  | this => sameSpelling
  | sameSpelling => sameValue
  | sameValue => this

end Reach

/-- The dialog: the literal it is about while it is open, and what is chosen. -/
structure Dialog where
  target : Option Literal
  base : Base
  reach : Reach
  deriving DecidableEq, Repr

/-- A message in the status. -/
structure Message where
  text : String
  /-- When the status was first drawn with it, which does not show it yet. -/
  since : Option Binary64
  deriving DecidableEq, Repr

/-- The windows of the screen. -/
structure Windows where
  tabs : Window
  numbers : Window
  code : Window
  panel : Window
  status : Window
  dialog : Option Window
  deriving DecidableEq, Repr

/-- What lies outside the editor: the environment, the files, and the clock in seconds. -/
structure World where
  env : Environment
  files : Files
  clock : Binary64
  deriving DecidableEq, Repr

/-- The editor. -/
structure Editor where
  session : Session
  documents : List Document
  active : Int
  height : Int
  width : Int
  windows : Windows
  message : Option Message
  dialog : Dialog
  /-- Whether the user has asked to leave. -/
  leaving : Bool
  world : World
  notes : List Note
  /-- What was drawn since the screen was last looked at. -/
  drawn : List Draw
  deriving DecidableEq, Repr

namespace Editor

/-! ## The screen -/

/-- The least number of rows. -/
def leastHeight : Int := 16

/-- The least number of columns. -/
def leastWidth : Int := 40

/-- Whether a screen of a size is too small. -/
def isTooSmall (height width : Int) : Bool := height < leastHeight || width < leastWidth

/-- The number of columns for line numbers. -/
def numberWidth : Int := 6

/-- The number of rows of the panel. -/
def panelHeight : Int := 10

/-- The number of rows of the code on a screen of a height. -/
def codeHeight (height : Int) : Int := height - 3 - panelHeight

/-- The windows of a screen of a size. -/
def windowsOf (height width : Int) : Windows where
  tabs := ⟨2, width, 0, 0⟩
  numbers := ⟨codeHeight height, numberWidth, 2, 0⟩
  code := ⟨codeHeight height, width - numberWidth, 2, numberWidth⟩
  panel := ⟨panelHeight, width, 2 + codeHeight height, 0⟩
  status := ⟨1, width, height - 1, 0⟩
  dialog := none

/-- An editor without documents, if the screen is large enough. -/
def start (session : Session) (world : World) (height width : Int) : Except Failure Editor :=
  if isTooSmall height width then .error (.smallTerminal width height)
  else
    .ok
      { session, documents := [], active := 0, height, width, windows := windowsOf height width
        message := none, dialog := ⟨none, .hex, .this⟩, leaving := false, world, notes := []
        drawn := [] }

/-- The editor with a message in its status. -/
def say (e : Editor) (text : String) : Editor := { e with message := some ⟨text, none⟩ }

/-- The editor on a screen of another size. -/
def resize (e : Editor) (height width : Int) : Editor :=
  let e := { e with height, width }
  if isTooSmall height width then e.say "Error: Terminal too small"
  else { e with windows := windowsOf height width }

/-! ## Documents -/

/-- The editor with some notes. -/
def note (e : Editor) (ns : List Note) : Editor := { e with notes := e.notes ++ ns }

/-- The active document, if there is one. -/
def document? (e : Editor) : Option Document :=
  if e.active < 0 then none else e.documents[e.active.toNat]?

/-- The editor with another document in the place of the active one. -/
def setDocument (e : Editor) (d : Document) : Editor :=
  { e with documents := e.documents.set e.active.toNat d }

/-- The editor with one more document, which is active. -/
def addDocument (e : Editor) (d : Document) : Editor :=
  { e with documents := e.documents ++ [d], active := e.documents.length }

/-- What is said about a name under which there is nothing yet. -/
def createdText (name : String) : String := "Created new file: " ++ name

/-- The last part of a document's file name, if it has one. -/
def shortName? (d : Document) : Option String :=
  match d.filename with
  | none => none
  | some "" => none
  | some n => some (String.ofList (Text.lastPart '/' n.toList))

/-- The short name of a document, or what stands in its place. -/
def nameOf (d : Document) : String := (shortName? d).getD "[No Name]"

/-- Makes the document with an index active; the answer is whether there is one. -/
def switchTo (e : Editor) (index : Int) : Editor × Bool :=
  if index < 0 then (e, false)
  else
    match e.documents[index.toNat]? with
    | none => (e, false)
    | some d => ({ e with active := index }.say ("Switched to: " ++ nameOf d), true)

/-! ## The dialog -/

/-- Whether the dialog is open. -/
def isConverting (e : Editor) : Bool := e.dialog.target.isSome

/-- The editor with the dialog closed. -/
def closeDialog (e : Editor) : Editor :=
  { e with
    dialog := { e.dialog with target := none }
    windows := { e.windows with dialog := none } }

/-- The request that the dialog makes, if it is open. -/
def request? (e : Editor) : Option Request :=
  e.dialog.target.map fun l =>
    { value := l.value, code := e.dialog.base.code, spelling := l.spelling
      span := some (l.start, l.stop)
      all := e.dialog.reach ≠ .this, equivalent := e.dialog.reach = .sameValue }

end Editor

end Respell
