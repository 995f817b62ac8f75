/-
  What the editor draws.

  From top to bottom: a tab for each document; then the dialog, if it is open, or else the lines of
  the active document with their numbers, and the panel for the literal at the cursor; then the
  status.  The lines that are shown begin half a window above the cursor.  An index below zero means
  the documents counted from the last.

  Literals are looked for while drawing, so a number that cannot be converted breaks the drawing
  off.

  The lines of a document are coloured by the tokens of its lexer, whichever it is.
-/
import Respell.Editor.Keys
import Respell.Highlight

namespace Respell.Editor

/-! ## Colours -/

/-- The colours of the status. -/
def statusAttribute : Attribute := ⟨1, true, false, true⟩

/-- The colours of a message about an error. -/
def errorAttribute : Attribute := ⟨7, true, false, false⟩

/-- The colours of the dialog. -/
def dialogAttribute : Attribute := ⟨6, true, false, false⟩

/-- The colours of line numbers and of a panel without a literal. -/
def quietAttribute : Attribute := .plain 10

/-- The colours of remarks. -/
def remarkAttribute : Attribute := ⟨3, false, true, false⟩

/-- The colours of the character at the cursor. -/
def cursorAttribute : Attribute := ⟨0, false, false, true⟩

/-- A line of the panel; the first one is bold. -/
def panelAttribute (first : Bool) : Attribute := ⟨2, first, false, false⟩

/-! ## Tabs -/

/-- The tab of a document with an index. -/
def tab (active : Int) (index : Nat) (d : Document) : String :=
  let number := toString (index + 1)
  let name := (shortName? d).getD ("[New File " ++ number ++ "]")
  if (index : Int) = active then "[" ++ number ++ ":" ++ name ++ "] "
  else " " ++ number ++ ":" ++ name ++ " "

/-- The tabs of all documents. -/
def tabLine (e : Editor) : String :=
  String.join ((e.documents.zipIdx).map fun d => tab e.active d.2 d.1)

/-- The row of tabs. -/
def drawTabs (e : Editor) : Drawing :=
  let w := e.windows.tabs
  .ofDraws ((w, .clear) :: w.put 0 0 e.tabLine.toList (.plain 0) ++ [(w, .rule 1 0 e.width)])

/-! ## Lines -/

/-- The document that is drawn. -/
def shown (e : Editor) : Except Failure Document :=
  match Text.index? e.documents.length e.active with
  | none => .error .noLine
  | some i =>
    match e.documents[i]? with
    | none => .error .noLine
    | some d => .ok d

/-- The first line that is shown. -/
def firstLine (e : Editor) (d : Document) : Int := max 0 (d.line - (codeHeight e.height).fdiv 2)

/-- The rows of the code window with the lines that are shown in them. -/
def rows (e : Editor) (d : Document) : List (Nat × Int) :=
  ((List.range (codeHeight e.height).toNat).map fun (i : Nat) => (i, e.firstLine d + i)).filter
    fun r => r.2 < d.lines.length

/-- The number of a line as it is shown. -/
def numberText (line : Int) : Text := Text.padLeft 4 ' ' (toString (line + 1)).toList ++ [' ']

/-- The line numbers. -/
def drawNumbers (e : Editor) (d : Document) : Drawing :=
  let w := e.windows.numbers
  .ofDraws ((w, .clear) :: (e.rows d).flatMap fun r =>
    w.put r.1 0 (numberText r.2) { quietAttribute with bold := r.2 = d.line })

/-- The offsets at which lines start, the first of them at `pos`. -/
def lineStarts (pos : Nat) : List Text → List Nat
  | [] => []
  | l :: ls => pos :: lineStarts (pos + l.length + 1) ls

/-- The last line that starts at an offset or in front of it, by the starts of all lines. -/
def lineAt (starts : List Nat) (offset : Nat) : Int := (starts.takeWhile (· ≤ offset)).length - 1

example : lineAt (lineStarts 0 ["ab".toList, [], "c".toList]) 4 = 2 := by decide

/-- The annotations of lines with a remark put behind the one of a line. -/
def annotate (line : Int) (remark : Text) (annotations : Table Int Text) : Table Int Text :=
  annotations.set line ((annotations.get? line).getD [] ++ remark)

/-- The annotations of lines: the remarks of the literals in each, put together. -/
def annotationsOf (lines : List Text) (decorations : List (Literal × Text)) : Table Int Text :=
  let starts := lineStarts 0 lines
  decorations.foldl (fun annotations x => annotate (lineAt starts x.1.start) x.2 annotations) []

/-- The annotations of the lines of a document. -/
def annotations (e : Editor) (d : Document) : Except NumeralError (Table Int Text) :=
  (e.session.decorationsOf d.text).map (annotationsOf d.lines)

/-- The pieces of a line from a column on. -/
def drawPieces (w : Window) (row column : Int) (bold : Bool) : List (Text × Nat) → List Draw
  | [] => []
  | (t, colour) :: rest =>
    w.put row column t ⟨colour, bold, false, false⟩ ++
      drawPieces w row (column + t.length) bold rest

/-- The character of a line at the cursor, a space behind its end. -/
def cursorChar (line : Text) (column : Int) : Except Failure Char :=
  if (line.length : Int) ≤ column then .ok ' '
  else
    match Text.index? line.length column with
    | none => .error .noColumn
    | some i => .ok (line.getD i ' ')

/-- The cursor in a row, if its line is shown there. -/
def drawCursor (w : Window) (row : Nat) (line : Text) (column : Int) : Drawing :=
  match cursorChar line column with
  | .error x => .failed x
  | .ok c => .ofDraws (w.putChar row column c cursorAttribute)

/-- The annotation of a line behind it, if there is one. -/
def drawAnnotation (w : Window) (row : Nat) (line : Text) : Option Text → Drawing
  | none => .ofDraws []
  | some t => .ofDraws (w.put row line.length t remarkAttribute)

/-- A row of the code: the line, its annotation, and the cursor. -/
def drawRow (e : Editor) (lexer : Highlight.Lexer) (d : Document) (annotations : Table Int Text)
    (r : Nat × Int) : Drawing :=
  let w := e.windows.code
  let line := Document.lineOrEmpty d.lines r.2
  match Highlight.colours (lexer line) line with
  | .error x => .failed (.numeral x)
  | .ok pieces =>
    Drawing.all
      [.ofDraws (drawPieces w r.1 0 (r.2 = d.line) pieces),
       drawAnnotation w r.1 line (annotations.get? r.2),
       if r.2 = d.line then drawCursor w r.1 line d.column else .ofDraws []]

/-- The lines of the document. -/
def drawCode (e : Editor) (lexer : Highlight.Lexer) (d : Document) : Drawing :=
  match e.annotations d with
  | .error x => .failed (.numeral x)
  | .ok annotations =>
    Drawing.all (.ofDraws [(e.windows.code, .clear)] :: (e.rows d).map (e.drawRow lexer d annotations))

/-! ## The panel -/

/-- The lines of the panel for a literal. -/
def panelLines (l : Literal) (lines : List Text) : List Text :=
  (lines ++ ["Bits: ".toList ++ View.bitRow l.value]).take (panelHeight - 1).toNat

/-- The panel for the literal at the cursor. -/
def drawPanel (e : Editor) (d : Document) : Drawing :=
  let w := e.windows.panel
  let top : Drawing := .ofDraws [(w, .clear), (w, .rule 0 0 e.width)]
  top.followedBy <|
    match Session.hover d.text d.cursor with
    | .error x => .failed (.numeral x)
    | .ok none => .ofDraws (w.put 1 1 "No number under cursor".toList quietAttribute)
    | .ok (some (l, lines)) =>
      .ofDraws ((panelLines l lines).zipIdx.flatMap fun x =>
        w.put (x.2 + 1) 1 x.1 (panelAttribute (x.2 = 0)))

/-! ## The dialog -/

/-- The window of the dialog on a screen of a size, in the middle. -/
def dialogWindow (height width : Int) : Window :=
  let w := min 80 (width - 4)
  ⟨9, w, (height - 9).fdiv 2, (width - w).fdiv 2⟩

/-- The editor with a window for the dialog. -/
def withDialogWindow (e : Editor) : Editor :=
  let w := e.windows.dialog.getD (dialogWindow e.height e.width)
  { e with windows := { e.windows with dialog := some w } }

/-- The dialog in its window. -/
def drawDialog (e : Editor) (w : Window) : Drawing :=
  let title := " Convert ".toList
  let half := w.width.fdiv 2
  let line (row column : Int) (t : String) := w.put row column t.toList (.plain 0)
  .ofDraws <|
    [(w, .clear), (w, .switchOn dialogAttribute), (w, .box)] ++
    w.put 0 ((w.width - title.length).fdiv 2) title (.plain 0) ++
    (match e.dialog.target with
    | none => []
    | some l =>
      line 2 2 ("Literal: " ++ String.ofList l.spelling) ++
      line 3 2 ("Target:  " ++ e.dialog.base.title) ++
      line 4 2 ("Scope:   " ++ e.dialog.reach.title)) ++
    line 6 2 "d/h/b/o: Target base" ++ line 7 2 "Tab: Change scope" ++
    line 6 half "Enter: Convert" ++ line 7 half "Esc: Cancel" ++
    [(w, .switchOff dialogAttribute)]

/-! ## The status -/

/-- How long a message is shown, in seconds. -/
def messageTime : Binary64 := .ofInt 3

/-- Whether a message that counts from a time has been shown for long enough. -/
def isOver (now since : Binary64) : Bool := messageTime.isBelow (now.sub since)

/-- The message after a drawing: one that came since the last drawing counts from now on and is shown
from the next one, an old one is gone.  At the time zero no message begins to count. -/
def agedMessage (now : Binary64) : Option Message → Option Message
  | none => none
  | some m =>
    if m.text = "" then some m
    else
      match m.since with
      | none => some { m with since := if now.isZero then none else some now }
      | some t => if isOver now t then none else some m

/-- The message that is shown in place of the status. -/
def shownMessage? (now : Binary64) : Option Message → Option String
  | none => none
  | some m =>
    if m.text = "" then none
    else
      match m.since with
      | none => none
      | some t => if isOver now t then none else some m.text

/-- What the status says of a document. -/
def statusText (e : Editor) (d : Document) : Text :=
  (" " ++ nameOf d ++ " [" ++ ((d.language.map (·.name)).getD "text") ++ "] [" ++
    e.session.format.title ++ "] " ++
    (if e.session.decorations then "[Deco On] " else "[Deco Off] ") ++
    (if d.modified then "[Modified] " else "")).toList

/-- Where the status says the cursor is. -/
def placeText (d : Document) : Text :=
  ("Line: " ++ toString (d.line + 1) ++ " Col: " ++ toString (d.column + 1)).toList

/-- The status of a document, filled up or cut to a width. -/
def statusLine (e : Editor) (d : Document) : Text :=
  let place := placeText d
  let status := e.statusText d
  let room := e.width - place.length - 1
  (if room < status.length then Text.before status (room - 3) ++ "... ".toList
    else status ++ List.replicate (room - status.length).toNat ' ') ++ place

/-- A message in the status. -/
def drawMessage (w : Window) (text : String) : List Draw :=
  let isError := text.startsWith "Error:"
  (if isError then [(w, .switchOn errorAttribute)] else []) ++
    w.put 0 0 (' ' :: text.toList) (.plain 0) ++
    (if isError then [(w, .switchOff errorAttribute)] else [])

/-- The status. -/
def drawStatus (e : Editor) : Drawing :=
  let w := e.windows.status
  let top : Drawing := .ofDraws [(w, .clear), (w, .switchOn statusAttribute)]
  let body : Drawing :=
    if e.documents.isEmpty then .ofDraws (w.put 0 0 " No file opened".toList (.plain 0))
    else
      match e.shown with
      | .error x => .failed x
      | .ok d =>
        match shownMessage? e.world.clock e.message with
        | some t => .ofDraws (drawMessage w t)
        | none => .ofDraws (w.put 0 0 (e.statusLine d) (.plain 0))
  Drawing.all [top, body, .ofDraws [(w, .switchOff statusAttribute)]]

/-! ## Everything -/

/-- What stands between the tabs and the status, with the lexers of documents. -/
def drawMiddle (e : Editor) (lexers : Document → Highlight.Lexer) : Drawing :=
  match e.isConverting, e.windows.dialog with
  | true, some w => e.drawDialog w
  | _, _ =>
    if e.documents.isEmpty then .ofDraws []
    else
      match e.shown with
      | .error x => .failed x
      | .ok d => Drawing.all [e.drawNumbers d, e.drawCode (lexers d) d, e.drawPanel d]

/-- All windows. -/
def draw (e : Editor) (lexers : Document → Highlight.Lexer) : Drawing :=
  Drawing.all [e.drawTabs, e.drawMiddle lexers, e.drawStatus]

/-- Draws all windows; what is drawn before a failure stays. -/
def refresh (e : Editor) (lexers : Document → Highlight.Lexer) : Attempt Editor Failure Unit :=
  let e := if e.isConverting then e.withDialogWindow else e
  let d := e.draw lexers
  let e := { e with drawn := e.drawn ++ d.draws }
  match d.failure with
  | some x => .failed e x
  | none =>
    if e.documents.isEmpty then .done e ()
    else .done { e with message := agedMessage e.world.clock e.message } ()

/-- What was drawn since the screen was last looked at, and the editor after the look. -/
def look (e : Editor) : List Group × Editor := (Group.ofDraws e.drawn, { e with drawn := [] })

end Respell.Editor
