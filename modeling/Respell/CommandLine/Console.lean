/-
  What a job works with: the environment, the files, and where it prints, tells of errors and keeps
  its log.

  Notes of a level below the least one are dropped.  The others become lines of the log at once, so
  a job that fails has logged what it did before.  The log is a file, or goes where errors are told,
  or is not kept.
-/
import Respell.Failure
import Respell.CommandLine.Grammar

namespace Respell.CommandLine

/-- Where the log goes. -/
inductive LogTarget where
  | nowhere
  | errors
  | file (path : String)
  deriving DecidableEq, Repr

/-- What a job works with. -/
structure Console where
  env : Environment
  files : Files
  /-- What has been printed. -/
  output : Text
  /-- What has been told of errors. -/
  errors : Text
  log : LogTarget
  /-- The least level that is logged. -/
  least : Level
  /-- The time that stands in front of the lines of the log. -/
  time : String
  deriving DecidableEq, Repr

namespace Console

/-- A console at which nothing has happened. -/
def start (env : Environment) (files : Files) (time : String) : Console :=
  ⟨env, files, [], [], .nowhere, .warning, time⟩

/-- The console after a text has been printed. -/
def print (c : Console) (t : Text) : Console := { c with output := c.output ++ t }

/-- The console after a line has been printed. -/
def printLine (c : Console) (t : Text) : Console := c.print (t ++ ['\n'])

/-- The console after a text has been told among the errors. -/
def tell (c : Console) (t : Text) : Console := { c with errors := c.errors ++ t }

/-! ## The log -/

/-- The console after a text has been put at the end of its log. -/
def append (c : Console) (t : Text) : Console :=
  match c.log with
  | .nowhere => c
  | .errors => c.tell t
  | .file path =>
    match c.files.append path (Utf8.encode t) with
    | .ok files => { c with files }
    | .error _ => c

/-- The console after some notes. -/
def note (c : Console) (ns : List Note) : Console :=
  (Note.atLeast c.least ns).foldl (fun c n => c.append (n.line c.time).toList) c

/-- The console with its log set up; a file is made if it is not there. -/
def withLog (c : Console) (log : LogTarget) (least : Level) : Except FileError Console :=
  let c := { c with log, least }
  match log with
  | .file path => (c.files.append path []).map fun files => { c with files }
  | _ => .ok c

/-! ## Files -/

/-- The text of a file. -/
def read (c : Console) (path : String) : Except Failure Text :=
  match c.files.read path with
  | .ok bytes => .ok (Utf8.decodeLossy bytes)
  | .error e => .error (.file e)

/-- Writes a text to a file if it is to be changed in place, and prints it if not. -/
def writeResult (c : Console) (path : String) (t : Text) (inPlace : Bool) :
    Attempt Console Failure Unit :=
  if inPlace then
    match c.files.write path (Utf8.encode t) with
    | .ok files => .done { c with files } ()
    | .error e => .failed c (.file e)
  else .done (c.print t) ()

/-- The path of the settings, if one is given. -/
def configPath : Option (Given String) → Except Failure (Option String)
  | none => .ok none
  | some (.value path) => .ok (some path)
  | some .nothing => .error .noConfig

/-- Reads the settings. -/
def loadSettings (c : Console) (config : Option (Given String)) :
    Attempt Console Failure Settings :=
  match configPath config with
  | .error e => .failed c e
  | .ok path =>
    let read := Settings.load c.env c.files path
    ⟨c.note read.state, read.result.mapError .settings⟩

end Console

end Respell.CommandLine
