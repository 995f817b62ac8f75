/-
  The settings of a user, how a document holds them and how they are written.

  1. **Settings** are the keywords of the guard, two switches, and the registers.

  2. **From a document.**  Settings are a mapping; what is missing keeps its default, and keys that
     are not known are passed over.  A register is a mapping from bit numbers to labels.  A key that
     is no integer is left out, with a note; a real number is cut to its integer part.  A label is a
     text, or a mapping with a label and a doc, either of which may be any value and is shown as
     text, if there is room for its depth.  Where there is no label, the bit number makes one.

  3. **To a tree.**  The four parts in a fixed order, the bits of a register ascending and by their
     decimal text.  A bit without a doc is its label alone.  Registers are left out if there are
     none.
-/
import Respell.Bitfield
import Respell.Guard
import Respell.Files
import Respell.Yaml.Read
import Respell.Yaml.Write

namespace Respell

/-- The settings of a user. -/
structure Settings where
  /-- Keywords behind which literals are kept. -/
  keywords : List String
  /-- Whether decorations may be seen at all. -/
  dualDisplay : Bool
  /-- Whether decorations are switched on. -/
  decorations : Bool
  registers : Registers
  deriving DecidableEq, Repr

/-- Why settings cannot be read or written. -/
inductive SettingsError where
  | malformed (path : String)
  | unreadable (path : String) (e : FileError)
  | unwritable (path : String) (e : FileError)
  | notMapping (path : String)
  | badKeywords
  | notBool (key : String)
  | registersNotMapping
  | registerNotMapping (register : String)
  /-- The file is no text. -/
  | notText (e : Utf8.DecodeError)
  /-- A scalar in the file does not exist. -/
  | value (e : Yaml.YamlError)
  /-- A bit number is infinite. -/
  | infiniteBit
  | numeral (e : NumeralError)
  /-- A label or a doc has values too deep in one another. -/
  | tooDeep
  /-- The path is none that the system can be asked about. -/
  | badPath (e : FileError)
  /-- The home directory in the path of the settings is not known. -/
  | noHome
  deriving DecidableEq, Repr

namespace SettingsError

/-- What is said about settings that cannot be read or written. -/
def message : SettingsError → String
  | malformed p => "Invalid YAML settings file at " ++ p
  | unreadable p e => "Cannot read settings file at " ++ p ++ ": " ++ e.message
  | unwritable p e => "Cannot write settings file at " ++ p ++ ": " ++ e.message
  | notMapping p => "Settings file at " ++ p ++ " must be a YAML mapping"
  | badKeywords => "skipContexts must be a list of strings"
  | notBool k => k ++ " must be a boolean"
  | registersNotMapping => "bitfields must be a mapping"
  | registerNotMapping r => "bitfields." ++ r ++ " must be a mapping"
  | notText e => e.message
  | value e => e.message
  | infiniteBit => "cannot convert float infinity to integer"
  | numeral e => e.message
  | tooDeep => "maximum recursion depth exceeded while getting the repr of an object"
  | badPath e => e.message
  | noHome => "Could not determine home directory."

/-- Whether an error is one of the settings, and not of a number or file that they name. -/
def isOwn : SettingsError → Bool
  | malformed _ => true
  | unreadable _ _ => true
  | unwritable _ _ => true
  | notMapping _ => true
  | badKeywords => true
  | notBool _ => true
  | registersNotMapping => true
  | registerNotMapping _ => true
  | _ => false

end SettingsError

namespace Settings

open Yaml (Scalar Value Tree)

/-- The settings of a user who has set nothing. -/
def default : Settings := ⟨Guard.defaultKeywords, true, true, []⟩

/-! ## Keys -/

/-- The key of the keywords. -/
def keywordsKey : String := "skipContexts"

/-- The key of the first switch. -/
def dualDisplayKey : String := "dualDisplay"

/-- The key of the second switch. -/
def decorationsKey : String := "decorationsEnabled"

/-- The key of the registers. -/
def registersKey : String := "bitfields"

/-- The key of a bit's label. -/
def labelKey : String := "label"

/-- The key of a bit's doc. -/
def docKey : String := "doc"

/-! ## From a document -/

/-- The integer that a typed text is; none if it has too many digits. -/
def typed? : Except NumeralError (Option Int) → Option Int
  | .ok i => i
  | .error _ => none

/-- The number of a bit by its key; none if the key is no integer. -/
def bitOf : Scalar → Except SettingsError (Option Int)
  | .bool b => .ok (some (if b then 1 else 0))
  | .int i => .ok (some i)
  | .real (.infinite _) => .error .infiniteBit
  | .real x => .ok x.truncated
  | .text t => .ok (typed? (Numeral.integer? 10 t))
  | .bytes bs => .ok (typed? (Numeral.integerOfBytes? bs))
  | _ => .ok none

/-- A text, with the failure of a number that is too long. -/
def textOf (t : Except NumeralError Text) : Except SettingsError String :=
  match t with
  | .ok t => .ok (String.ofList t)
  | .error e => .error (.numeral e)

/-- The text of a value, where some number of texts can be made one inside another. -/
def textIn (room : Nat) (d : Yaml.Document) (v : Value) : Except SettingsError String :=
  match d.shown room v with
  | .ok t => .ok (String.ofList t)
  | .error (.numeral e) => .error (.numeral e)
  | .error .tooDeep => .error .tooDeep

/-- The label of a bit that has none. -/
def bitName (bit : Int) : Except SettingsError String :=
  textOf ((Numeral.signed bit).map ("bit".toList ++ ·))

/-- The value of a key, if it counts as something. -/
def something? (d : Yaml.Document) (es : List (Scalar × Value)) (key : String) : Option Value :=
  match Yaml.Document.get? es key with
  | none => none
  | some v => if d.isTruthy v then some v else none

/-- The label of a bit by the entries that are set for it. -/
def labelOfEntries (room : Nat) (d : Yaml.Document) (bit : Int) (es : List (Scalar × Value)) :
    Except SettingsError BitLabel := do
  let label ← match something? d es labelKey with
    | none => bitName bit
    | some v => textIn room d v
  match something? d es docKey with
  | none => .ok ⟨label, none⟩
  | some v => (textIn room d v).map fun doc => ⟨label, some doc⟩

/-- The label of a bit by what is set for it. -/
def labelOf (room : Nat) (d : Yaml.Document) (bit : Int) (v : Value) : Except SettingsError BitLabel :=
  match v, d.entries? v with
  | .scalar (.text t), _ => .ok ⟨String.ofList t, none⟩
  | _, some es => labelOfEntries room d bit es
  | _, none => (bitName bit).map (⟨·, none⟩)

/-- A scalar as text in a message; empty if it is a number that is too long. -/
def named (t : Except NumeralError Text) : String :=
  match t with
  | .ok t => String.ofList t
  | .error _ => ""

/-- What is noted about a key that is no bit number. -/
def ignoredNote (register key : Scalar) : Note :=
  ⟨.debug, "hexmate.config", "Ignoring bit key " ++ named key.listed ++ " in register " ++
    named register.shown⟩

/-- The bits of a register behind those that are `done`, with what is noted. -/
def readBits (room : Nat) (d : Yaml.Document) (register : Scalar) (notes : List Note) (done : Register) :
    List (Scalar × Value) → Attempt (List Note) SettingsError Register
  | [] => .done notes done
  | (key, v) :: es =>
    match bitOf key with
    | .error e => .failed notes e
    | .ok none => readBits room d register (notes ++ [ignoredNote register key]) done es
    | .ok (some bit) =>
      match labelOf room d bit v with
      | .error e => .failed notes e
      | .ok l => readBits room d register notes (Table.set bit l done) es

/-- The entries of a value that is a mapping or nothing. -/
def entriesOf? (d : Yaml.Document) (v : Value) : Option (List (Scalar × Value)) :=
  if v = .scalar .null then some [] else d.entries? v

/-- The registers behind those that are `done`, with what is noted. -/
def readRegisters (room : Nat) (d : Yaml.Document) (notes : List Note) (done : Registers) :
    List (Scalar × Value) → Attempt (List Note) SettingsError Registers
  | [] => .done notes done
  | (register, v) :: es =>
    match entriesOf? d v with
    | none =>
      match textOf register.shown with
      | .error e => .failed notes e
      | .ok name => .failed notes (.registerNotMapping name)
    | some bits =>
      (readBits room d register notes [] bits).andThen fun notes r =>
        match textOf register.shown with
        | .error e => .failed notes e
        | .ok name => readRegisters room d notes (Table.set name r done) es

/-- A text that a value is. -/
def text? : Value → Option String
  | .scalar (.text t) => some (String.ofList t)
  | _ => none

/-- The keywords that a value sets; nothing sets none. -/
def keywordsOf (d : Yaml.Document) (v : Value) : Except SettingsError (List String) :=
  match v, d.content? v with
  | .scalar .null, _ => .ok []
  | _, some (.list vs) =>
    if vs.all fun v => (text? v).isSome then .ok (vs.filterMap text?) else .error .badKeywords
  | _, some (.pairs []) => .ok []
  | _, _ => .error .badKeywords

/-- The truth value under a key. -/
def boolOf (es : List (Scalar × Value)) (key : String) (usual : Bool) : Except SettingsError Bool :=
  match Yaml.Document.get? es key with
  | none => .ok usual
  | some (.scalar (.bool b)) => .ok b
  | some _ => .error (.notBool key)

/-- The parts of the settings that come before the registers. -/
def readSwitches (d : Yaml.Document) (es : List (Scalar × Value)) :
    Except SettingsError Settings := do
  let keywords ← match Yaml.Document.get? es keywordsKey with
    | none => .ok default.keywords
    | some v => keywordsOf d v
  let dualDisplay ← boolOf es dualDisplayKey default.dualDisplay
  let decorations ← boolOf es decorationsKey default.decorations
  .ok ⟨keywords, dualDisplay, decorations, []⟩

/-- The settings that the entries of a mapping make, with what is noted. -/
def ofEntries (room : Nat) (d : Yaml.Document) (es : List (Scalar × Value)) :
    Attempt (List Note) SettingsError Settings :=
  match readSwitches d es with
  | .error e => .failed [] e
  | .ok s =>
    match (Yaml.Document.get? es registersKey).map (entriesOf? d) with
    | none => .done [] s
    | some none => .failed [] .registersNotMapping
    | some (some rs) =>
      (readRegisters room d [] [] rs).andThen fun notes registers => .done notes { s with registers }

/-! ## To a tree -/

/-- A text as a tree. -/
def ofString (s : String) : Tree := .text s.toList

/-- What is set for a bit. -/
def labelTree (l : BitLabel) : Tree :=
  match l.doc with
  | none => ofString l.label
  | some "" => ofString l.label
  | some doc =>
    .mapping [(labelKey.toList, ofString l.label), (docKey.toList, ofString doc)]

/-- The entry of a bit. -/
def bitEntry (e : Int × BitLabel) : Except NumeralError (Text × Tree) :=
  (Numeral.signed e.1).map fun t => (t, labelTree e.2)

/-- The entry of a register. -/
def registerEntry (e : String × Register) : Except NumeralError (Text × Tree) :=
  (allOf ((Register.sorted e.2).map bitEntry)).map fun bits => (e.1.toList, .mapping bits)

/-- The entries of the registers as an entry of the settings, if there are any. -/
def registersEntry (rs : Registers) : Except NumeralError (List (Text × Tree)) :=
  if rs.isEmpty then .ok []
  else (allOf (rs.map registerEntry)).map fun es => [(registersKey.toList, .mapping es)]

/-- The entries that settings make. -/
def toEntries (s : Settings) : Except NumeralError (List (Text × Tree)) :=
  (registersEntry s.registers).map fun registers =>
    [(keywordsKey.toList, .list (s.keywords.map ofString)),
     (dualDisplayKey.toList, .bool s.dualDisplay),
     (decorationsKey.toList, .bool s.decorations)] ++ registers

end Settings

end Respell
