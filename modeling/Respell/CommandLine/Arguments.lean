/-
  What the program is asked to do.

  The arguments are those for every run, then the name of a job with the arguments of that job.  A
  complaint names the program, and the job if the complaint is about its own arguments.  Extras of
  both parts are complained of together once both have been read.
-/
import Respell.CommandLine.Grammar
import Respell.Base

namespace Respell.CommandLine

/-- What the program is asked to do. -/
inductive Job where
  /-- Open files in the editor. -/
  | edit (files : List String)
  /-- List the literals of a file. -/
  | scan (file : String)
  /-- Show a number in every base. -/
  | convert (value : String)
  /-- Show the bits of a number. -/
  | bits (value : String)
  /-- Respell the literals of one spelling or one value, or one of them. -/
  | replace (file : String) (literal : Given String) (base : Given Base) (all equivalent : Bool)
      (start : Option (Given Int)) (inPlace : Bool)
  /-- Respell all literals of a file. -/
  | cycle (file : String) (base : Given Base) (inPlace : Bool)
  deriving DecidableEq, Repr

/-- The arguments of a run. -/
structure Arguments where
  /-- The path of the settings. -/
  config : Option (Given String)
  verbose : Bool
  /-- The path of the log; given nothing, there is none. -/
  log : Option String
  job : Job
  deriving DecidableEq, Repr

/-- Why the arguments are not carried out; the name of the program, or of the part of it that they
are for, and its grammar. -/
structure Refusal where
  program : String
  grammar : Grammar
  stop : Stop
  deriving DecidableEq, Repr

/-! ## Grammars -/

/-- The name of the program. -/
def programName : String := "hexmate"

/-- The flag that every grammar has. -/
def helpFlag : OptionForm := .flag "help" (some 'h')

/-- The option for the new base. -/
def baseOption : OptionForm := .valued "to" (.oneOf (Base.all.map (·.code))) true

/-- The flag for writing the file. -/
def inPlaceFlag : OptionForm := .flag "in-place" none

/-- The grammar of the arguments for every run. -/
def runGrammar : Grammar where
  options := [helpFlag, .valued "config" .text false, .flag "verbose" (some 'v'),
    .valued "log-file" .text false]
  operands := .command "command"

/-- A grammar with operands and no options of its own. -/
def plainGrammar (operands : Operands) : Grammar := ⟨[helpFlag], operands⟩

/-- The jobs and their grammars. -/
def jobGrammars : List (String × Grammar) :=
  [("edit", plainGrammar .any),
   ("scan", plainGrammar (.named ["file"])),
   ("convert", plainGrammar (.named ["value"])),
   ("bits", plainGrammar (.named ["value"])),
   ("replace",
     ⟨[helpFlag, baseOption, .flag "all" none, .flag "equivalent" none, .valued "at" .integer false,
       inPlaceFlag], .named ["file", "literal"]⟩),
   ("cycle", ⟨[helpFlag, baseOption, inPlaceFlag], .named ["file"]⟩)]

/-! ## Jobs -/

namespace Reading

/-- Whether a flag was given. -/
def has (r : Reading) (name : String) : Bool := r.flags.contains name

/-- The base that was given. -/
def base? (r : Reading) : Option (Given Base) :=
  match r.values.lookup "to" with
  | none => none
  | some .nothing => some .nothing
  | some (.value code) => (Base.all.find? (·.code = code)).map .value

/-- The offset that was given. -/
def start? (r : Reading) : Option (Given Int) :=
  match r.values.lookup "at" with
  | none => none
  | some .nothing => some .nothing
  | some (.value n) =>
    match Numeral.integer? 10 n.toList with
    | .ok i => i.map .value
    | .error _ => none

/-- The job with a name. -/
def job? (r : Reading) (name : String) : Option Job :=
  match name, r.operands, r.base? with
  | "edit", files, _ => some (.edit (files.filterMap Given.value?))
  | "scan", [.value file], _ => some (.scan file)
  | "convert", [.value value], _ => some (.convert value)
  | "bits", [.value value], _ => some (.bits value)
  | "replace", [.value file, literal], some base =>
    some (.replace file literal base (r.has "all") (r.has "equivalent") r.start? (r.has "in-place"))
  | "cycle", [.value file], some base => some (.cycle file base (r.has "in-place"))
  | _, _, _ => none

end Reading

/-- Whether a job asks for all literals of one value without asking for all. -/
def Job.needsAll : Job → Bool
  | replace _ _ _ all equivalent _ _ => equivalent && !all
  | _ => false

/-- The refusal of a name that is no job. -/
def noSuchJob (name : String) : Refusal :=
  ⟨programName, runGrammar, .complaint (.badChoice "command" name (jobGrammars.map (·.1)))⟩

namespace Arguments

/-- A complaint about the run. -/
def refuse (c : Complaint) : Except Refusal α := .error ⟨programName, runGrammar, .complaint c⟩

/-- The arguments of a run from what was read for every run and for its job. -/
def ofReadings (run : Reading) (name : String) (r : Reading) : Except Refusal Arguments :=
  match run.extras ++ r.extras with
  | a :: more => refuse (.unknown (a :: more))
  | [] =>
    match r.job? name with
    | none => .error (noSuchJob name)
    | some job =>
      if job.needsAll then refuse .needsAll
      else
        .ok ⟨run.values.lookup "config", run.has "verbose",
          (run.values.lookup "log-file").bind Given.value?, job⟩

/-- The arguments of a run. -/
def ofStrings (arguments : List String) : Except Refusal Arguments :=
  match runGrammar.read arguments with
  | .error e => .error ⟨programName, runGrammar, e⟩
  | .ok run =>
    match run.operands.filterMap Given.value? with
    | [] => refuse (.missing ["command"])
    | name :: rest =>
      match jobGrammars.lookup name with
      | none => .error (noSuchJob name)
      | some g =>
        match g.read rest with
        | .error e => .error ⟨programName ++ " " ++ name, g, e⟩
        | .ok r => ofReadings run name r

end Arguments

namespace Refusal

/-- How the program is used. -/
def usage (r : Refusal) : String := r.grammar.usage r.program

/-- Whether help was asked for. -/
def isHelp (r : Refusal) : Bool := r.stop = .help

/-- What is told of a refusal, behind how the program is used. -/
def complaint (r : Refusal) : String :=
  match r.stop with
  | .help => ""
  | .complaint c => r.program ++ ": error: " ++ c.message ++ "\n"

end Refusal

end Respell.CommandLine
