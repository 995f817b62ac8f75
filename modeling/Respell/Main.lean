/-
  The program at a real terminal.

  A run works on a picture of the files that its arguments name.  What it changes there is written
  to the disk: after the run, or for the editor after each key.  The terminal has to hand keys on
  one by one and not to print them; its size is read from the environment.
-/
import Respell.CommandLine
import Respell.Log.Stamp
import Respell.Screen.Ansi
import Respell.Screen.Keyboard

namespace Respell.Program

open CommandLine

/-! ## The surroundings -/

/-- The variables that the program looks at. -/
def variableNames : List String := [Settings.pathVariable, "HOME"]

/-- The home of an account from its line in the list of accounts. -/
def accountOf? (line : String) : Option (String × String) :=
  match (Text.split ':' line.toList).map String.ofList with
  | name :: _ :: _ :: _ :: _ :: home :: _ => some (name, home)
  | _ => none

/-- The file that lists the accounts. -/
def accountsFile : String := "/etc/passwd"

/-- How deep texts of values go, which is some less than the calls that the program makes in all. -/
def usualRoom : Nat := 990

/-- The environment. -/
def environment : IO Environment := do
  let mut found := []
  for name in variableNames do
    if let some value ← IO.getEnv name then
      found := found ++ [(name, value)]
  let lines ← try (Array.toList <$> IO.FS.lines accountsFile) catch _ => pure []
  return ⟨found, lines.filterMap accountOf?, usualRoom⟩

/-- The time of the file system in milliseconds. -/
def millis : IO Nat := do
  let (_, path) ← IO.FS.createTempFile
  let ⟨seconds, nanos⟩ := (← path.metadata).modified
  IO.FS.removeFile path
  return seconds.toNat * 1000 + nanos.toNat / 1000000

/-- A time in seconds. -/
def secondsOf (millis : Nat) : Binary64 := .ofDecimal false millis (-3)

/-- A number in the environment, or another one if there is none. -/
def numberOr (name : String) (other : Nat) : IO Nat := do
  return ((← IO.getEnv name).bind (·.toNat?)).getD other

/-! ## Files -/

/-- The names of files on which a run depends. -/
def namesOf (env : Environment) (a : Arguments) : List String :=
  let settings := match Settings.resolve env (a.config.bind Given.value?) with
    | .ok p => [p.toString]
    | .error _ => []
  let own := match a.job with
    | .edit files => files
    | .scan file => [file]
    | .convert _ => []
    | .bits _ => []
    | .replace file _ _ _ _ _ _ => [file]
    | .cycle file _ _ => [file]
  settings ++ a.log.toList.map Console.logPath ++ own

/-- The name of a place on the disk. -/
def nameOf : Place → String
  | "/" :: names => "/" ++ "/".intercalate names
  | names => "/".intercalate names

/-- The files with what the disk has along a path name. -/
def survey (fs : Files) (name : String) : IO Files := do
  let path := Path.ofString name
  let mut fs := fs
  let mut place : Place := if path.root = "" then [] else ["/"]
  for part in path.parts do
    place := Files.stepTo place part
    let here := (← IO.currentDir) / nameOf place
    if ← here.isDir then
      fs := fs.put place .directory
    else if ← here.pathExists then
      fs := fs.put place (.file (← IO.FS.readBinFile here).toList)
  return fs

/-- Writes what has changed to the disk. -/
def store (before after : Files) : IO Unit := do
  for (place, entry) in after.entries do
    if before.entry? place ≠ some entry then
      match entry with
      | .directory => IO.FS.createDirAll (nameOf place)
      | .file bytes => IO.FS.writeBinFile (nameOf place) ⟨bytes.toArray⟩

/-! ## The editor -/

/-- Prints a text at once. -/
def emit (t : String) : IO Unit := do
  let out ← IO.getStdout
  out.putStr t
  out.flush

/-- The sitting at the present time. -/
def atPresent (s : Sitting) : IO Sitting := do
  let time ← millis
  let console := { s.console with time := Stamp.text time }
  let world := { s.editor.world with clock := secondsOf time }
  return { s with console, editor := { s.editor with world } }

/-- The keys that have come, or else those of the next bytes of the terminal. -/
def nextKeys (waiting : List Int) : IO (List Int) := do
  if waiting.isEmpty then
    let bytes ← (← IO.getStdin).read 64
    return Keyboard.keys bytes.toList
  return waiting

/-- Lets the editor take keys until it is left.  There are no lexers. -/
partial def converse (s : Sitting) (waiting : List Int) : IO (Attempt Sitting Failure Unit) := do
  let drawn := (← atPresent s).draw fun _ => .none
  emit (Ansi.picture drawn.state.editor.drawn)
  match drawn.result with
  | .error e => return .failed drawn.state e
  | .ok () =>
    match ← nextKeys waiting with
    | [] => return .done drawn.state ()
    | key :: keys =>
      let turn := drawn.state.look.2.receive (.key key)
      store s.editor.world.files turn.state.editor.world.files
      match turn.result with
      | .error e => return .failed turn.state e
      | .ok false => return .done turn.state ()
      | .ok true => converse turn.state keys

/-- Runs the editor. -/
def edit (c : Console) (config : Option (Given String)) (files : List String) : IO Work := do
  let height ← numberOr "LINES" 24
  let width ← numberOr "COLUMNS" 80
  match Sitting.start c config files (secondsOf (← millis)) height width with
  | ⟨c, .error e⟩ => return .failed c e
  | ⟨_, .ok s⟩ =>
    emit Ansi.clearAll
    let ending ← converse s []
    emit Ansi.clearAll
    return ⟨ending.state.console, ending.result⟩

/-! ## Runs -/

/-- Prints what a run has printed and told, and gives its code. -/
def report (r : Run) : IO UInt32 := do
  emit (String.ofList r.console.output)
  let told ← IO.getStderr
  told.putStr (String.ofList r.console.errors)
  match r.ending, r.ending.code? with
  | .brokenOff e, _ =>
    told.putStrLn e.message
    return 1
  | _, code => return (code.getD 1).toUInt32

/-- Carries the arguments of a run out. -/
def execute (arguments : List String) : IO UInt32 := do
  let env ← environment
  let names := match Arguments.ofStrings arguments with
    | .ok a => namesOf env a
    | .error _ => []
  let before ← names.foldlM survey Files.empty
  match prepare (.start env before (Stamp.text (← millis))) arguments with
  | .error r => report r
  | .ok (c, a) =>
    let work ← match a.job with
      | .edit files => edit c a.config files
      | _ => pure (c.carryOut a ⟨.ofInt 0, 0, 0, [], fun _ => .none⟩).2
    store before work.state.files
    report (finish work [])

end Respell.Program

/-- The program. -/
def main (arguments : List String) : IO UInt32 := Respell.Program.execute arguments
