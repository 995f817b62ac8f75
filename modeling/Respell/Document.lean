/-
  A document: the lines of a text, a cursor, and the changes that can be undone and redone.

  1. **Lines and columns.**  A line is named by an index and a column by an offset, so both may
     count back from the end.  An operation on a line at or past the end does nothing; one on a line
     before the start fails.  `offsetOf` and `positionOf` turn lines and columns into offsets of the
     text and back.

  2. **Changes.**  A change of one line is recorded with the line as it was and as it is.  Any other
     change records the whole text.  Splitting, joining and deleting lines record the text before
     they begin, and the text after is filled in when the change is undone: until then a record
     has the same text twice.

  3. **Undo and redo.**  The past and the future are lists of changes, the newest first, of at most
     a hundred each.  A new change empties the future.

  4. **Failures** leave behind what was done before them; an `Attempt` tells.  They can only occur
     where a line index or the cursor lies before the start of the document.
-/
import Respell.Edit
import Respell.Language

namespace Respell

/-- A change to a document, as it is undone and redone. -/
inductive Change where
  /-- The whole text was replaced, with the cursor at an offset. -/
  | text (cursor : Int) (old new : Text)
  /-- One line was replaced. -/
  | line (line : Int) (old new : Text)
  deriving DecidableEq, Repr

/-- A document that is edited. -/
structure Document where
  lines : List Text
  line : Int
  column : Int
  past : List Change
  future : List Change
  modified : Bool
  filename : Option String
  language : Option Language
  finalNewline : Bool
  deriving DecidableEq, Repr

/-- Why an operation on a document fails. -/
inductive DocumentError where
  /-- There is no such line. -/
  | noLine
  /-- There is no such line to be taken out. -/
  | noLineToDelete
  | edit (e : EditError)
  deriving DecidableEq, Repr

namespace DocumentError

/-- What is said about an operation that fails. -/
def message : DocumentError → String
  | noLine => "list index out of range"
  | noLineToDelete => "list assignment index out of range"
  | edit e => e.message

end DocumentError

namespace Document

/-- A document with a text, the cursor at its start, and nothing to undo. -/
def ofText (t : Text) : Document :=
  ⟨Text.lines t, 0, 0, [], [], false, none, none, false⟩

/-- The text of a document. -/
def text (d : Document) : Text := Text.unlines d.lines

theorem text_ofText (t : Text) : (ofText t).text = t := Text.unlines_lines t

/-! ## Offsets and positions -/

/-- The offset at which a line starts. -/
def lineStart (ls : List Text) (line : Nat) : Nat :=
  (ls.take line).foldr (fun l n => l.length + 1 + n) 0

/-- The line, inside the document, that is nearest to an index counted from the start. -/
def nearestLine (ls : List Text) (line : Int) : Nat := (min line (ls.length - 1)).toNat

/-- The line with an index from the start, empty if there is none. -/
def lineOrEmpty (ls : List Text) (line : Int) : Text :=
  if line < 0 then [] else ls.getD line.toNat []

/-- The offset of a line and a column; the column is cut to the line from above only. -/
def offsetOf (d : Document) (line column : Int) : Int :=
  let l := nearestLine d.lines line
  lineStart d.lines l + min column (d.lines.getD l []).length

/-- The line and column of an offset from zero up, at the end if it lies past the end. -/
def positionIn : List Text → Nat → Nat × Nat
  | [], _ => (0, 0)
  | [l], o => (0, min o l.length)
  | l :: ls, o =>
    if o ≤ l.length then (0, o)
    else ((positionIn ls (o - (l.length + 1))).1 + 1, (positionIn ls (o - (l.length + 1))).2)

/-- The line and column of an offset; one below zero means zero. -/
def positionOf (d : Document) (offset : Int) : Nat × Nat := positionIn d.lines offset.toNat

example : (ofText "ab\nc".toList).positionOf 3 = (1, 0) := by decide
example : (ofText "ab\nc".toList).offsetOf 1 0 = 3 := by decide
example : (ofText "ab\nc".toList).positionOf 9 = (1, 1) := by decide
example : (ofText "ab\nc".toList).offsetOf 9 9 = 4 := by decide

/-- The offset of the cursor. -/
def cursor (d : Document) : Int := d.offsetOf d.line d.column

/-- The document with the cursor at an offset. -/
def moveTo (d : Document) (offset : Int) : Document :=
  { d with line := (d.positionOf offset).1, column := (d.positionOf offset).2 }

/-- The document with another text and the cursor kept inside it. -/
def setText (d : Document) (t : Text) : Attempt Document DocumentError Unit :=
  let ls := Text.lines t
  let line := min d.line (ls.length - 1)
  let d := { d with lines := ls, line }
  match Text.index? ls.length line with
  | none => .failed d .noLine
  | some l => .done { d with column := min d.column (ls.getD l []).length } ()

/-! ## Recording changes -/

/-- The greatest number of changes that are kept. -/
def historyLimit : Nat := 100

/-- A list of changes, the newest first, with one more. -/
def pushed (c : Change) (cs : List Change) : List Change := (c :: cs).take historyLimit

/-- The document with a change recorded, which leaves nothing to redo. -/
def record (d : Document) (c : Change) : Document :=
  { d with past := pushed c d.past, future := [] }

/-- The document with its text recorded in front of a change to its lines. -/
def snapshot (d : Document) : Document := d.record (.text d.cursor d.text d.text)

/-- The document with a line replaced, as one change. -/
def replaceLine (d : Document) (line : Int) (l : Nat) (new : Text) : Document :=
  { d.record (.line line (d.lines.getD l []) new) with
    lines := d.lines.set l new
    modified := true }

/-! ## Editing -/

/-- Applies an edit set as one change; the answer is the number of edits. -/
def applyEdits (d : Document) (es : List Edit) : Attempt Document DocumentError Nat :=
  match es with
  | [] => .done d 0
  | _ =>
    match Edit.applyAll d.text es with
    | .error e => .failed d (.edit e)
    | .ok new =>
      (d.setText new).andThen fun d' _ =>
        let d' := d'.moveTo (min d.cursor new.length)
        .done { d'.record (.text d.cursor d.text new) with modified := true } es.length

/-- Puts a text into a line and the cursor's column behind it. -/
def insert (d : Document) (line column : Int) (t : Text) : Attempt Document DocumentError Unit :=
  if (d.lines.length : Int) ≤ line then .done d ()
  else
    match Text.index? d.lines.length line with
    | none => .failed d .noLine
    | some l =>
      let current := d.lines.getD l []
      let column := min column current.length
      let d := d.replaceLine line l (Text.before current column ++ t ++ Text.after current column)
      .done { d with column := column + t.length } ()

/-- Takes the part between two columns out of a line and puts the cursor's column there. -/
def delete (d : Document) (line start stop : Int) : Attempt Document DocumentError Unit :=
  if (d.lines.length : Int) ≤ line then .done d ()
  else
    match Text.index? d.lines.length line with
    | none => .failed d .noLine
    | some l =>
      let current := d.lines.getD l []
      let start := min start current.length
      let stop := min stop current.length
      let d := d.replaceLine line l (Text.before current start ++ Text.after current stop)
      .done { d with column := start } ()

/-- A list with a member put in at an offset. -/
def insertAt (ls : List Text) (i : Int) (l : Text) : List Text :=
  ls.take (Text.place ls.length i) ++ l :: ls.drop (Text.place ls.length i)

/-- Breaks a line in two at a column and puts the cursor on the second. -/
def split (d : Document) (line column : Int) : Attempt Document DocumentError Unit :=
  if (d.lines.length : Int) ≤ line then .done d ()
  else
    let d := d.snapshot
    match Text.index? d.lines.length line with
    | none => .failed d .noLine
    | some l =>
      let current := d.lines.getD l []
      let column := min column current.length
      let ls := d.lines.set l (Text.before current column)
      .done { d with
        lines := insertAt ls (line + 1) (Text.after current column)
        line := line + 1, column := 0, modified := true } ()

/-- Puts a line at the end of the one before it and the cursor where they meet. -/
def join (d : Document) (line : Int) : Document :=
  if 0 < line ∧ line < d.lines.length then
    let d := d.snapshot
    let l := line.toNat
    let previous := d.lines.getD (l - 1) []
    { d with
      lines := (d.lines.set (l - 1) (previous ++ d.lines.getD l [])).eraseIdx l
      line := line - 1, column := previous.length, modified := true }
  else d

/-- Takes a line out, unless it is the only one. -/
def deleteLine (d : Document) (line : Int) : Attempt Document DocumentError Unit :=
  if (d.lines.length : Int) ≤ line ∨ d.lines.length = 1 then .done d ()
  else
    let d := d.snapshot
    match Text.index? d.lines.length line with
    | none => .failed d .noLineToDelete
    | some l =>
      let ls := d.lines.eraseIdx l
      let cursor :=
        if line < d.line then d.line - 1
        else if (ls.length : Int) ≤ d.line then ls.length - 1
        else d.line
      .done { d with lines := ls, line := cursor, modified := true } ()

/-! ## Undo and redo -/

/-- A change with the text after it filled in, if that was left open. -/
def completed (d : Document) : Change → Change
  | .text cursor old new => .text cursor old (if old = new then d.text else new)
  | c => c

/-- The document with a line put in place of another, and the cursor in it. -/
def putLine (d : Document) (line : Int) (new : Text) : Document :=
  if 0 ≤ line ∧ line < d.lines.length then
    { d with lines := d.lines.set line.toNat new, line, column := min d.column new.length }
  else d

/-- The document as it was before a change. -/
def revert (d : Document) : Change → Attempt Document DocumentError Unit
  | .text cursor old _ => (d.setText old).andThen fun d _ => .done (d.moveTo cursor) ()
  | .line line old _ => .done (d.putLine line old) ()

/-- The document as it was after a change. -/
def repeatChange (d : Document) : Change → Attempt Document DocumentError Unit
  | .text cursor _ new => (d.setText new).andThen fun d _ => .done (d.moveTo cursor) ()
  | .line line _ new => .done (d.putLine line new) ()

/-- Takes the newest change back; the answer is whether there was one. -/
def undo (d : Document) : Attempt Document DocumentError Bool :=
  match d.past with
  | [] => .done d false
  | c :: past =>
    let c := d.completed c
    ({ d with past }.revert c).andThen fun d _ =>
      .done { d with future := pushed c d.future, modified := !d.past.isEmpty } true

/-- Makes the change that was taken back last again; the answer is whether there was one. -/
def redo (d : Document) : Attempt Document DocumentError Bool :=
  match d.future with
  | [] => .done d false
  | c :: future =>
    ({ d with future, past := pushed c d.past }.repeatChange c).andThen fun d _ =>
      .done { d with modified := true } true

example : (((ofText ['a', 'b']).split 0 1).state.undo.state.redo.state).lines = [['a'], ['b']] := by
  decide +kernel
example : ((ofText ['a']).insert 0 1 ['b']).state.undo.state = { ofText ['a'] with
    column := 1, future := [.line 0 ['a'] ['a', 'b']] } := by decide +kernel

end Document

end Respell
