/-
  Documents in files.

  A file is read as UTF-8 with replacement characters, and its newlines are kept as they are.  A
  newline at its very end is no line of its own: it is taken off, remembered, and written again.  A
  document is emptied of its history before its file is read, so a file that cannot be read leaves
  the old lines without their history.
-/
import Respell.Document
import Respell.Files
import Respell.Log

namespace Respell.Document

/-- The number of lines that are looked at to find the language of a document. -/
def lookedAt : Nat := 100

/-- A text without the newline at its end, and whether there was one. -/
def withoutFinalNewline (t : Text) : Text × Bool :=
  if t.getLast? = some '\n' then (t.dropLast, true) else (t, false)

/-- The bytes of a document's file. -/
def content (d : Document) : List UInt8 :=
  Utf8.encode (d.text ++ if d.finalNewline then ['\n'] else [])

/-- The document with nothing to undo or redo, unmodified, and under a name. -/
def reset (d : Document) (name : String) : Document :=
  { d with
    line := 0, column := 0, past := [], future := [], modified := false, filename := some name }

/-- Reads the document from a file. -/
def load (d : Document) (fs : Files) (name : String) : Attempt Document FileError Unit :=
  let d := d.reset name
  match fs.read name with
  | .error e => .failed d e
  | .ok bytes =>
    let (t, finalNewline) := withoutFinalNewline (Utf8.decodeLossy bytes)
    let lines := Text.lines t
    let language := Language.detect name.toList (Text.unlines (lines.take lookedAt))
    .done { d with lines, language, finalNewline } ()

/-- What is noted after a document has been read. -/
def loadedNote (d : Document) (name : String) : Note :=
  ⟨.debug, "hexmate.core.buffer", "Loaded " ++ name ++ " (" ++ toString d.lines.length ++
    " lines, language " ++ ((d.language.map (·.name)).getD "None") ++ ")"⟩

/-- The name that a document is saved under: the given one, or else its own; an empty name is
none. -/
def saveName (d : Document) (name : Option String) : Option String :=
  let own := if d.filename = some "" then none else d.filename
  match name with
  | none => own
  | some "" => own
  | some n => some n

/-- Writes the document to a file; none if it has no name. -/
def save (d : Document) (fs : Files) (name : Option String) :
    Except FileError (Option (Document × Files)) :=
  match d.saveName name with
  | none => .ok none
  | some n =>
    (fs.write n d.content).map fun fs => some ({ d with filename := some n, modified := false }, fs)

/-- What is said about a document that cannot be saved. -/
def saveMessage (e : FileError) : String := "Failed to save file: " ++ e.message

/-- What is noted after an edit set has been applied. -/
def editedNote (d : Document) (count : Nat) : Note :=
  let name := match d.filename with
    | none => "[No Name]"
    | some "" => "[No Name]"
    | some n => n
  ⟨.debug, "hexmate.core.buffer", "Applied " ++ toString count ++ " edits to " ++ name⟩

end Respell.Document
