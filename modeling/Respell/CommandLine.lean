/-
  A run of the program.

  1. **Arguments** that are refused end the run with code 2 before anything is done.

  2. **The log** is set up first.  Without a file the editor keeps no log, since the screen is its
     own; the other jobs then log among the errors.  The path of the file is folded.  A file that
     cannot be opened breaks the run off.

  3. **The job** is carried out.  If it fails for an expected reason the reason is told and the run
     ends with code 1.  Any other failure breaks the run off.
-/
import Respell.CommandLine.Jobs
import Respell.CommandLine.Sitting

namespace Respell.CommandLine

/-- How a run ends. -/
inductive Ending where
  | finished
  | refused (r : Refusal)
  /-- The job failed, and the reason was told. -/
  | failed (e : Failure)
  /-- The run was broken off. -/
  | brokenOff (e : Failure)
  deriving DecidableEq, Repr

namespace Ending

/-- The code that the program ends with, if it is not broken off. -/
def code? : Ending → Option Nat
  | finished => some 0
  | refused r => some (if r.isHelp then 0 else 2)
  | failed _ => some 1
  | brokenOff _ => none

end Ending

/-- What the editor may be run on: the time in seconds, the size of the terminal, what happens at it,
and the lexers of documents. -/
structure Terminal where
  clock : Binary64
  height : Int
  width : Int
  events : List Event
  lexers : Document → Highlight.Lexer

/-- What is told of a failure. -/
def failureText (e : Failure) : Text := ("Error: " ++ e.message ++ "\n").toList

/-- How work ends a run; an expected failure is told. -/
def endOf (w : Work) : Console × Ending :=
  match w.result with
  | .ok () => (w.state, .finished)
  | .error e =>
    if e.isExpected then (w.state.tell (failureText e), .failed e) else (w.state, .brokenOff e)

namespace Console

/-- The path of a log that is asked for: folded, and ending before any null character. -/
def logPath (asked : String) : String :=
  String.ofList ((Path.ofString asked).folded.toString.toList.takeWhile (· ≠ '\x00'))

/-- Where the log of a run goes. -/
def logTarget (a : Arguments) : LogTarget :=
  match a.log, a.job with
  | some "", .edit _ => .nowhere
  | none, .edit _ => .nowhere
  | some "", _ => .errors
  | none, _ => .errors
  | some path, _ => .file (logPath path)

/-- Sets the log of a run up. -/
def withLogOf (c : Console) (a : Arguments) : Except FileError Console :=
  c.withLog (logTarget a) (if a.verbose then .debug else .warning)

/-- Runs the editor, and what was seen of it in each turn. -/
def edit (c : Console) (config : Option (Given String)) (files : List String) (t : Terminal) :
    List (List Group) × Work :=
  match Sitting.start c config files t.clock t.height t.width with
  | ⟨c, .error e⟩ => ([], .failed c e)
  | ⟨_, .ok s⟩ =>
    let (seen, ending) := s.play t.lexers t.events
    (seen, ⟨ending.state.console, ending.result⟩)

/-- Carries a job out, and what was seen of it on the terminal. -/
def carryOut (c : Console) (a : Arguments) (t : Terminal) : List (List Group) × Work :=
  match a.job with
  | .edit files => c.edit a.config files t
  | .scan file => ([], c.scan file)
  | .convert value => ([], c.convert value)
  | .bits value => ([], c.bits a.config value)
  | .replace file literal base all equivalent start inPlace =>
    ([], c.replace a.config file literal base all equivalent start inPlace)
  | .cycle file base inPlace => ([], c.cycle file base inPlace)

end Console

/-- What a run leaves behind. -/
structure Run where
  console : Console
  ending : Ending
  /-- What was seen on the terminal. -/
  seen : List (List Group)
  deriving DecidableEq, Repr

/-- A run that is refused; help is printed, a complaint is told among the errors. -/
def refuse (c : Console) (r : Refusal) : Run :=
  let c := if r.isHelp then c.print r.usage.toList else c.tell (r.usage ++ r.complaint).toList
  ⟨c, .refused r, []⟩

/-- Reads the arguments and sets the log up. -/
def prepare (c : Console) (arguments : List String) : Except Run (Console × Arguments) :=
  match Arguments.ofStrings arguments with
  | .error r => .error (refuse c r)
  | .ok a =>
    match c.withLogOf a with
    | .error e => .error ⟨c, .brokenOff (.file e), []⟩
    | .ok c => .ok (c, a)

/-- The run that work ends, and what was seen of it. -/
def finish (w : Work) (seen : List (List Group)) : Run :=
  let (console, ending) := endOf w
  ⟨console, ending, seen⟩

/-- The program on its arguments. -/
def run (c : Console) (t : Terminal) (arguments : List String) : Run :=
  match prepare c arguments with
  | .error r => r
  | .ok (c, a) =>
    let (seen, work) := c.carryOut a t
    finish work seen

end Respell.CommandLine
