/-
  Everything that can go wrong in a run of the program.

  A failure is a cause; `message` is what is said about it.  Failures of the program's own rules and
  of its settings are told to the user and the work goes on.  A number that cannot be converted or
  a file that cannot be read ends a command, but not by surprise.  The rest are surprises.
-/
import Respell.Document.Storage
import Respell.Respelling
import Respell.Settings.Storage

namespace Respell

/-- A cause for which something fails. -/
inductive Failure where
  | numeral (e : NumeralError)
  | request (e : RequestError)
  | edit (e : EditError)
  /-- There is no such line. -/
  | noLine
  /-- There is no such line to be taken out. -/
  | noLineToDelete
  /-- There is no such character in a line. -/
  | noColumn
  | settings (e : SettingsError)
  | file (e : FileError)
  /-- A document cannot be saved. -/
  | unsaved (e : FileError)
  | smallTerminal (width height : Int)
  | notNumber (t : Text)
  | notLiteral (t : Text)
  /-- Nothing was given where a base is needed. -/
  | noBase
  /-- Nothing was given where a literal is needed. -/
  | noLiteral
  /-- Nothing was given where an offset is needed. -/
  | noOffset
  /-- Nothing was given where the path of the settings is needed. -/
  | noConfig
  deriving DecidableEq, Repr

namespace Failure

/-- The failure of an operation on a document. -/
def ofDocument : DocumentError → Failure
  | .noLine => noLine
  | .noLineToDelete => noLineToDelete
  | .edit e => edit e

/-- The failure of a respelling. -/
def ofRespelling : RespellingError → Failure
  | .request e => request e
  | .numeral e => numeral e
  | .edit e => edit e

/-- The failure of a document to be saved.  A name that never reaches the system is at fault itself,
and nothing is said of saving. -/
def ofSaving (e : FileError) : Failure := if e.isOfSystem then unsaved e else file e

/-- What is said about a failure. -/
def message : Failure → String
  | numeral e => e.message
  | request e => e.message
  | edit e => e.message
  | noLine => DocumentError.noLine.message
  | noLineToDelete => DocumentError.noLineToDelete.message
  | noColumn => "string index out of range"
  | settings e => e.message
  | file e => e.message
  | unsaved e => Document.saveMessage e
  | smallTerminal w h =>
    "Terminal too small. Minimum size: 40x16, Current size: " ++ toString w ++ "x" ++ toString h
  | notNumber t => "Not a number: " ++ String.ofList (Text.quoted t)
  | notLiteral t => "Not a number literal: " ++ String.ofList (Text.quoted t)
  | noBase => "Unknown base code: []"
  | noLiteral => "'list' object has no attribute 'lower'"
  | noOffset => "can only concatenate list (not \"int\") to list"
  | noConfig => "expected str, bytes or os.PathLike object, not list"

/-- Whether a failure is one of the program's own rules. -/
def isOwn : Failure → Bool
  | request _ => true
  | edit _ => true
  | settings e => e.isOwn
  | notNumber _ => true
  | notLiteral _ => true
  | _ => false

/-- Whether a command that fails so ends with a message. -/
def isExpected : Failure → Bool
  | noLine => false
  | noLineToDelete => false
  | noColumn => false
  | noLiteral => false
  | noOffset => false
  | noConfig => false
  | settings .infiniteBit => false
  | settings .tooDeep => false
  | settings .noHome => false
  | settings (.value e) => e.isExpected
  | _ => true

end Failure

end Respell
