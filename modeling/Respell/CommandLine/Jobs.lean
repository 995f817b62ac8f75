/-
  The jobs that need no screen.

  1. **Order.**  A job stops at its first failure.  What it has printed and logged by then stays,
     and a file is written only as the last step.

  2. **Listing** a file prints each literal as soon as it has been read, so a literal that cannot be
     read does not take those in front of it away.

  3. **Replacing** one literal takes the one that stands at a given offset, whatever is there, or
     else the first of that very spelling.  A file without one is written as it is.

  4. **Nothing given.**  A literal, an offset or a base that was given nothing is missed only when
     it is needed.
-/
import Respell.CommandLine.Arguments
import Respell.CommandLine.Console
import Respell.Session

namespace Respell.CommandLine

/-- What a job leaves behind. -/
abbrev Work := Attempt Console Failure Unit

namespace Console

/-- What the jobs note. -/
def jobNote (message : String) : Note := ⟨.info, "hexmate.__main__", message⟩

/-- Goes on with a value if it could be found. -/
def withValue (c : Console) (x : Except Failure α) (f : α → Work) : Work :=
  match x with
  | .ok a => f a
  | .error e => .failed c e

/-- The number that a user has typed. -/
def typedNumber (value : String) : Except Failure Nat :=
  match Numeral.readInput value.toList with
  | .error e => .error (.numeral e)
  | .ok none => .error (.notNumber value.toList)
  | .ok (some n) => .ok n

/-! ## Showing -/

/-- A literal with its line and column, counted from one. -/
def literalLine (d : Document) (l : Literal) : Except Failure Text :=
  let (line, column) := d.positionOf l.start
  match Numeral.decimalText l.value with
  | .error e => .error (.numeral e)
  | .ok value =>
    .ok ((toString (line + 1) ++ ":" ++ toString (column + 1) ++ " ").toList ++ l.spelling ++
      [' '] ++ value)

/-- The lines that list the literals of a text. -/
def literalLines (t : Text) : List (Except Failure Text) :=
  let d := Document.ofText t
  (Literal.readAll t).map fun r => (r.mapError .numeral).bind (literalLine d)

/-- Prints lines up to the first that fails. -/
def printLines (c : Console) (ls : List (Except Failure Text)) : Work :=
  ⟨(okPart ls).foldl printLine c, (allOf ls).map fun _ => ()⟩

/-- Lists the literals of a file. -/
def scan (c : Console) (file : String) : Work :=
  c.withValue (c.read file) fun t => c.printLines (literalLines t)

/-- Shows a number in every base. -/
def convert (c : Console) (value : String) : Work :=
  c.withValue (typedNumber value) fun n =>
    c.withValue ((View.panel n).mapError .numeral) fun lines =>
      .done (c.printLine (Text.unlines lines)) ()

/-- A labelled bit as a line. -/
def bitLine (s : BitState) : Text :=
  let doc := match s.doc with
    | none => ""
    | some "" => ""
    | some d => " - " ++ d
  ("  " ++ s.label ++ ": " ++ (if s.isSet then "1" else "0") ++ doc).toList

/-- A register with its labelled bits as lines. -/
def registerLines (r : String × List BitState) : List Text :=
  r.1.toList :: if r.2.isEmpty then ["  (no definitions)".toList] else r.2.map bitLine

/-- Shows the bits of a number, with the registers of the settings. -/
def bits (c : Console) (config : Option (Given String)) (value : String) : Work :=
  c.withValue (typedNumber value) fun n =>
    (c.loadSettings config).andThen fun c settings =>
      let lines := ("Bits: ".toList ++ View.bitRow n) ::
        (settings.registers.describe n).flatMap registerLines
      .done (lines.foldl printLine c) ()

/-! ## Respelling -/

/-- The span of the literal to be replaced: at a given offset, or the first of the spelling. -/
def spanOf (t : Text) (literal : Text) (start : Option (Given Int)) :
    Except Failure (Option (Int × Int)) :=
  match start with
  | some .nothing => .error .noOffset
  | some (.value i) => .ok (some (i, i + literal.length))
  | none =>
    ((Literal.firstSpelled literal (Literal.readAll t)).mapError .numeral).map fun l? =>
      l?.map fun l => (l.start, l.stop)

/-- What is given, where it is needed. -/
def need (missing : Failure) : Given α → Except Failure α
  | .value a => .ok a
  | .nothing => .error missing

/-- Applies edits to the text of a file. -/
def applyEdits (c : Console) (file : String) (t : Text) (es : List Edit) (what : String)
    (inPlace : Bool) : Work :=
  let c := c.note [jobNote ("Converting " ++ toString es.length ++ " " ++ what ++ " in " ++ file)]
  c.withValue ((Edit.applyAll t es).mapError .edit) fun t => c.writeResult file t inPlace

/-- Carries out a request on the text of a file. -/
def respell (c : Console) (g : Guard) (file : String) (t : Text) (r : Request) (inPlace : Bool) :
    Work :=
  match r.policy t none with
  | .error e => .failed c (.ofRespelling e)
  | .ok none => c.applyEdits file t [] "occurrences" inPlace
  | .ok (some p) =>
    let c := c.note (p.notes g t)
    c.withValue ((p.edits g t).mapError .numeral) fun es =>
      c.applyEdits file t es "occurrences" inPlace

/-- The value of a literal that a user has given. -/
def literalValue (literal : Text) : Except Failure Nat :=
  match Numeral.read literal with
  | .error e => .error (.numeral e)
  | .ok none => .error (.notLiteral literal)
  | .ok (some n) => .ok n

/-- Respells one literal, those of one spelling, or those of one value. -/
def replace (c : Console) (config : Option (Given String)) (file : String) (literal : Given String)
    (base : Given Base) (all equivalent : Bool) (start : Option (Given Int)) (inPlace : Bool) :
    Work :=
  (c.loadSettings config).andThen fun c settings =>
    c.withValue (c.read file) fun t =>
    c.withValue (need .noLiteral literal) fun literal =>
    c.withValue (literalValue literal.toList) fun value =>
      let g := Guard.ofKeywords settings.keywords
      let request (span : Option (Int × Int)) (base : Base) : Request :=
        { value, code := base.code, spelling := literal.toList, span, all, equivalent }
      if all then
        c.withValue (need .noBase base) fun b => c.respell g file t (request none b) inPlace
      else
        c.withValue (spanOf t literal.toList start) fun
        | none =>
          (c.note [jobNote ("No occurrence of " ++ literal ++ " in " ++ file)]).writeResult file t
            inPlace
        | some span =>
          c.withValue (need .noBase base) fun b =>
            c.respell g file t (request (some span) b) inPlace

/-- Respells every literal of a file. -/
def cycle (c : Console) (file : String) (base : Given Base) (inPlace : Bool) : Work :=
  c.withValue (c.read file) fun t =>
    c.withValue (need .noBase base) fun base =>
    c.withValue ((cycleEdits base t).mapError .numeral) fun es =>
      c.applyEdits file t es "numbers" inPlace

end Console

end Respell.CommandLine
