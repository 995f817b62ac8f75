/-
  The file of the settings.

  The path is the one that is asked for, or else the one that a variable of the environment holds if
  it is not empty, or else a path in the home directory.  A file that is not there means the default
  settings.  Saving makes the directories that the file lies in.
-/
import Respell.Settings

namespace Respell.Settings

/-- The variable that may hold the path of the settings. -/
def pathVariable : String := "HEXMATE_CONFIG"

/-- The path of the settings if nothing else is set. -/
def usualPath : String := "~/.config/hexmate/settings.yaml"

/-- The path of the settings as the user gives it. -/
def chosenPath (env : Environment) (asked : Option String) : String :=
  match asked with
  | some p => p
  | none =>
    match env.get? pathVariable with
    | none => usualPath
    | some "" => usualPath
    | some p => p

/-- The path of the settings. -/
def resolve (env : Environment) (asked : Option String) : Except SettingsError Path :=
  let p := Path.ofString (chosenPath env asked)
  if (p.account?.getD []).contains '\x00' then .error (.badPath ⟨.nullInName, p.toString⟩)
  else
    match p.expand env with
    | none => .error .noHome
    | some p => .ok p

/-- What is noted about the settings. -/
def noteOf (message : String) : Note := ⟨.debug, "hexmate.config", message⟩

/-- Whether a path leads to anything; a name that is too long gives no answer. -/
def isThere (fs : Files) (path : String) : Except FileError Bool :=
  match fs.find path with
  | .ok _ => .ok true
  | .error .nameTooLong => .error ⟨.nameTooLong, path⟩
  | .error _ => .ok false

/-- What bytes hold, read from a path. -/
def documentOf (path : String) (bytes : List UInt8) : Except SettingsError Yaml.Document :=
  match Utf8.decode bytes with
  | .error e => .error (.notText e)
  | .ok t =>
    match Yaml.read t with
    | .error .malformed => .error (.malformed path)
    | .error e => .error (.value e)
    | .ok d => .ok d

/-- The settings that a file at a path holds, with what is noted. -/
def ofBytes (room : Nat) (path : String) (bytes : List UInt8) : Attempt (List Note) SettingsError Settings :=
  match documentOf path bytes with
  | .error e => .failed [] e
  | .ok d =>
    match entriesOf? d d.root with
    | none => .failed [] (.notMapping path)
    | some es =>
      let read := ofEntries room d es
      ⟨noteOf ("Loaded settings from " ++ path) :: read.state, read.result⟩

/-- The settings of a user, with what is noted. -/
def load (env : Environment) (fs : Files) (asked : Option String) :
    Attempt (List Note) SettingsError Settings :=
  match resolve env asked with
  | .error e => .failed [] e
  | .ok p =>
    let path := p.toString
    match isThere fs path with
    | .error e => .failed [] (.badPath e)
    | .ok false => .done [noteOf ("No settings file at " ++ path ++ ", using defaults")] default
    | .ok true =>
      match fs.read path with
      | .error e => .failed [] (.unreadable path e)
      | .ok bytes => ofBytes env.room path bytes

/-- The files after a text has been written to a path, its directories being made. -/
def store (fs : Files) (path : Path) (t : Text) : Attempt Files FileError Unit :=
  match fs.makeDirectories path.parent with
  | .error e => .failed fs e
  | .ok fs =>
    match fs.write path.toString (Utf8.encode t) with
    | .error e => .failed fs e
    | .ok fs => .done fs ()

/-- The error of settings that cannot be written to a path. -/
def unwritten (path : Path) (e : FileError) : SettingsError :=
  if e.isOfSystem then .unwritable path.toString e else .badPath e

/-- Writes settings; the answer is their path. -/
def save (env : Environment) (fs : Files) (asked : Option String) (s : Settings) :
    Attempt Files SettingsError Path :=
  match resolve env asked with
  | .error e => .failed fs e
  | .ok path =>
    match s.toEntries with
    | .error e => .failed fs (.numeral e)
    | .ok es =>
      let stored := store fs path (Yaml.write es)
      match stored.result with
      | .error e => .failed stored.state (unwritten path e)
      | .ok () => .done stored.state path

/-- What is noted after settings have been written. -/
def savedNote (path : Path) : Note := noteOf ("Saved settings to " ++ path.toString)

end Respell.Settings
