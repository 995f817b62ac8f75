/-
  A session: what the actions of one run of the editor share.

  1. **The format** is a base, hex at first.  Switching it goes one step on in the cycle of bases
     and respells every literal of the document in the new one.  The step is taken even if the
     respelling fails.

  2. **Decorations** are the remarks behind literals.  They are seen if they are switched on and the
     settings allow them.  Switching them writes the settings first; if that fails nothing changes.

  3. **Requests** are carried out on a document with its cursor, under the guard of the settings.
-/
import Respell.Failure
import Respell.View

namespace Respell

/-- What the actions of one run share. -/
structure Session where
  settings : Settings
  /-- The path under which the settings are kept, if it is not the usual one. -/
  settingsPath : Option String
  format : Base
  decorations : Bool
  deriving DecidableEq, Repr

namespace Session

/-- A session at its start. -/
def start (settings : Settings) (settingsPath : Option String) : Session :=
  ⟨settings, settingsPath, .hex, settings.decorations⟩

/-- The guard of the settings. -/
def guard (s : Session) : Guard := Guard.ofKeywords s.settings.keywords

/-- Whether decorations are seen. -/
def decorationsVisible (s : Session) : Bool := s.decorations && s.settings.dualDisplay

/-- What a session notes. -/
def noteOf (level : Level) (message : String) : Note := ⟨level, "hexmate.core.session", message⟩

/-! ## The format -/

/-- The session with the next format. -/
def advance (s : Session) : Session := { s with format := s.format.next }

/-- What is noted about a new format. -/
def formatNote (s : Session) : Note := noteOf .info ("Number format is now " ++ s.format.title)

/-- Applies edits that may have failed to be made. -/
def applyMade (d : Document) (made : Except Failure (List Edit)) : Attempt Document Failure Nat :=
  match made with
  | .error e => .failed d e
  | .ok es =>
    match d.applyEdits es with
    | ⟨d, .ok n⟩ => .done d n
    | ⟨d, .error e⟩ => .failed d (.ofDocument e)

/-- Respells every literal of a document in the format; the answer is their number. -/
def respellAll (s : Session) (d : Document) : Attempt Document Failure Nat :=
  applyMade d ((cycleEdits s.format d.text).mapError .numeral)

/-- Takes the next format and respells a document in it. -/
def toggleFormat (s : Session) (d : Document) : Attempt (Session × Document) Failure Nat :=
  let r := s.advance.respellAll d
  ⟨(s.advance, r.state), r.result⟩

/-! ## Decorations -/

/-- The session with decorations switched, in the settings too. -/
def withDecorations (s : Session) (on : Bool) : Session :=
  { s with decorations := on, settings := { s.settings with decorations := on } }

/-- What is noted about decorations that have been switched. -/
def decorationsNote (on : Bool) : Note :=
  noteOf .info ("Decorations " ++ if on then "enabled" else "disabled")

/-- Switches the decorations and writes the settings; the answer is whether they are on. -/
def toggleDecorations (s : Session) (env : Environment) (fs : Files) :
    Attempt (Session × Files) SettingsError Bool :=
  let on := !s.decorations
  let saved := Settings.save env fs s.settingsPath { s.settings with decorations := on }
  match saved.result with
  | .error e => .failed (s, saved.state) e
  | .ok _ => .done (s.withDecorations on, saved.state) on

/-- The literals of a text with their remarks, none if decorations are not seen. -/
def decorationsOf (s : Session) (t : Text) : Except NumeralError (List (Literal × Text)) :=
  if s.decorationsVisible then
    allOf ((Literal.readAll t).map (·.bind fun l => (View.remark l.value).map fun r => (l, r)))
  else .ok []

/-- The literal at an offset with the lines that describe it. -/
def hover (t : Text) (offset : Int) : Except NumeralError (Option (Literal × List Text)) :=
  match Literal.at? t offset with
  | .error e => .error e
  | .ok none => .ok none
  | .ok (some l) => (View.panel l.value).map fun lines => some (l, lines)

/-! ## Requests -/

/-- What is noted if there is no literal at the cursor. -/
def noLiteralNote (d : Document) : Note :=
  noteOf .debug ("No literal at cursor offset " ++ toString d.cursor)

/-- The edits that a request means in a document; `none` if its literal is not there. -/
def requestEdits (s : Session) (d : Document) (r : Request) : Except Failure (Option (List Edit)) :=
  match r.policy d.text (some d.cursor) with
  | .error e => .error (.ofRespelling e)
  | .ok none => .ok none
  | .ok (some p) => ((p.edits s.guard d.text).mapError .numeral).map some

/-- Carries a request out; the answer is the number of literals that are respelled. -/
def replace (s : Session) (d : Document) (r : Request) : Attempt Document Failure Nat :=
  match s.requestEdits d r with
  | .error e => .failed d e
  | .ok none => .done d 0
  | .ok (some es) => applyMade d (.ok es)

end Session

end Respell
