/-
  The grammar of a command line: options and operands.

  1. **Options.**  A flag switches something on, and may have a letter beside its name.  The other
     options take a value, which is the next argument or stands behind an equals sign.  A name may
     be cut short as long as only one option begins so.  Letters of flags may share one argument; an
     equals sign may stand behind the first of them, if letters follow it.

  2. **What is no option.**  Arguments without a dash in front, a dash alone, negative numbers,
     unknown options with a space in them, and everything behind the mark `--`.

  3. **Operands** are given their names in order.  They may stand between options.  A grammar
     without names takes any number of operands, but only such as stand together.  A grammar whose
     operand is a command leaves the rest of the line to that command, options included.

  4. **The mark as a value.**  Where one value is expected, the first mark among the arguments that
     are taken for it counts for nothing.  So an option or operand that is given the mark alone is
     given nothing; nothing is checked then, and nothing is missed.

  5. **Extras.**  Unknown options and operands too many are set aside; only at the very end does one
     complain of them.  All other complaints come in the order of the arguments, after those of
     names that are cut too short.
-/
import Respell.Numeral.Integer
import Respell.Text.Quoted

namespace Respell.CommandLine

/-- What is given for an option or operand. -/
inductive Given (α : Type) where
  | value (a : α)
  /-- The mark alone was given. -/
  | nothing
  deriving DecidableEq, Repr

namespace Given

/-- The value that is given, if it is one. -/
def value? : Given α → Option α
  | value a => some a
  | nothing => none

/-- What an argument gives where one value is expected. -/
def ofArgument (a : String) : Given String := if a = "--" then nothing else value a

end Given

/-- Which values an option takes. -/
inductive ValueRule where
  | text
  | integer
  | oneOf (choices : List String)
  deriving DecidableEq, Repr

/-- An option. -/
inductive OptionForm where
  | flag (name : String) (letter : Option Char)
  | valued (name : String) (rule : ValueRule) (required : Bool)
  deriving DecidableEq, Repr

/-- The operands that a grammar has. -/
inductive Operands where
  /-- One for each name. -/
  | named (names : List String)
  /-- Any number of them. -/
  | any
  /-- A command with its own arguments. -/
  | command (name : String)
  deriving DecidableEq, Repr

/-- Options and operands. -/
structure Grammar where
  options : List OptionForm
  operands : Operands
  deriving DecidableEq, Repr

namespace OptionForm

/-- The name of an option. -/
def name : OptionForm → String
  | flag n _ => n
  | valued n _ _ => n

/-- The name of an option as an argument. -/
def spelling (o : OptionForm) : String := "--" ++ o.name

/-- What an option is called in a complaint. -/
def title : OptionForm → String
  | flag n (some c) => "-" ++ String.singleton c ++ "/--" ++ n
  | o => o.spelling

/-- Whether an option has a letter. -/
def hasLetter (o : OptionForm) (c : Char) : Bool :=
  match o with
  | flag _ l => l = some c
  | valued _ _ _ => false

/-- Whether an option has to be given. -/
def isRequired : OptionForm → Bool
  | flag _ _ => false
  | valued _ _ r => r

end OptionForm

/-! ## Usage -/

/-- Something that may be left out. -/
def optional (s : String) : String := "[" ++ s ++ "]"

/-- What stands for a value in a usage line. -/
def ValueRule.usage (name : String) : ValueRule → String
  | oneOf choices => "\x7b" ++ ",".intercalate choices ++ "\x7d"
  | _ => name.toUpper

/-- An option in a usage line. -/
def OptionForm.usage : OptionForm → String
  | flag _ (some c) => optional ("-" ++ String.singleton c)
  | flag n none => optional ("--" ++ n)
  | valued n rule true => "--" ++ n ++ " " ++ rule.usage n
  | valued n rule false => optional ("--" ++ n ++ " " ++ rule.usage n)

/-- The operands in a usage line. -/
def Operands.usage : Operands → List String
  | named names => names
  | any => [optional "files ..."]
  | command name => [name, "..."]

/-- How a program with a grammar is used. -/
def Grammar.usage (program : String) (g : Grammar) : String :=
  "usage: " ++ " ".intercalate (program :: g.options.map (·.usage) ++ g.operands.usage) ++ "\n"

/-! ## Complaints -/

/-- What can be wrong with a command line. -/
inductive Complaint where
  | ambiguous (argument : String) (names : List String)
  | noValue (option : String)
  | unusedValue (option value : String)
  | badChoice (what value : String) (choices : List String)
  | badInteger (option value : String)
  | missing (names : List String)
  | unknown (arguments : List String)
  | needsAll
  deriving DecidableEq, Repr

/-- Several words, a comma between each two. -/
def listed (words : List String) : String := ", ".intercalate words

/-- What is said about a complaint. -/
def Complaint.message : Complaint → String
  | ambiguous a names => "ambiguous option: " ++ a ++ " could match " ++ listed names
  | noValue o => "argument " ++ o ++ ": expected one argument"
  | unusedValue o v => "argument " ++ o ++ ": ignored explicit argument " ++ quote v
  | badChoice w v choices =>
    "argument " ++ w ++ ": invalid choice: " ++ quote v ++ " (choose from " ++
      listed (choices.map quote) ++ ")"
  | badInteger o v => "argument " ++ o ++ ": invalid int value: " ++ quote v
  | missing names => "the following arguments are required: " ++ listed names
  | unknown arguments => "unrecognized arguments: " ++ " ".intercalate arguments
  | needsAll => "--equivalent needs --all"

/-- Why a command line is not carried out. -/
inductive Stop where
  /-- Help was asked for. -/
  | help
  | complaint (c : Complaint)
  deriving DecidableEq, Repr

/-! ## Items -/

/-- An argument as a grammar sees it. -/
inductive Item where
  /-- No option. -/
  | plain (argument : String)
  /-- The mark behind which there are no options. -/
  | mark
  | unknown (argument : String)
  | flags (argument : String) (names : List String)
  /-- An option that takes a value, and the value if it is in the same argument. -/
  | valued (argument name : String) (rule : ValueRule) (value : Option String)
  /-- A flag with something behind it. -/
  | faulty (argument : String) (c : Complaint)
  deriving DecidableEq, Repr

namespace Item

/-- The argument that an item is. -/
def argument : Item → String
  | plain a => a
  | mark => "--"
  | unknown a => a
  | flags a _ => a
  | valued a _ _ _ => a
  | faulty a _ => a

/-- Whether an item is no option. -/
def isOperand : Item → Bool
  | plain _ => true
  | mark => true
  | _ => false

/-- An option that is named in full, with the value behind its equals sign. -/
def ofOption (argument : String) (o : OptionForm) (value : Option String) : Item :=
  match o, value with
  | .valued n rule _, v => valued argument n rule v
  | .flag n _, none => flags argument [n]
  | .flag _ _, some v => faulty argument (.unusedValue o.title v)

end Item

/-! ## Telling options from operands -/

/-- Whether a text is a run of decimal digits of any script. -/
def isDigits (t : Text) : Bool := t.all fun c => (Text.decimalValue? c).isSome

/-- Whether an argument is a negative number, with or without a decimal point. -/
def isNegative (a : Text) : Bool :=
  match if a.getLast? = some '\n' then a.dropLast else a with
  | '-' :: t =>
    match Text.split '.' t with
    | [n] => isDigits n && !n.isEmpty
    | [n, m] => isDigits n && isDigits m && !m.isEmpty
    | _ => false
  | _ => false

example : isNegative "-5".toList = true ∧ isNegative "-.5".toList = true := by decide
example : isNegative "-5.".toList = false ∧ isNegative "-0x5".toList = false := by decide

/-- An argument cut at its first equals sign. -/
def cutValue (a : Text) : Text × Option String :=
  match a.dropWhile (· ≠ '=') with
  | [] => (a, none)
  | _ :: v => (a.takeWhile (· ≠ '='), some (String.ofList v))

namespace Grammar

/-- The options whose spelling begins with a text. -/
def beginning (g : Grammar) (t : Text) : List OptionForm :=
  g.options.filter fun o => t.isPrefixOf o.spelling.toList

/-- The names of the flags that letters behind a flag `last` give, all of which have to be known. -/
def flagRun (g : Grammar) (last : OptionForm) : Text → Except Complaint (List String)
  | [] => .ok []
  | c :: t =>
    match g.options.find? (·.hasLetter c) with
    | none => .error (.unusedValue last.title (String.ofList (c :: t)))
    | some o => (g.flagRun o t).map (o.name :: ·)

/-- The names of the flags that the letters behind the first flag give; an equals sign in front of
them counts for nothing, but needs letters. -/
def lettersBehind (g : Grammar) (first : OptionForm) : Text → Except Complaint (List String)
  | ['='] => .error (.unusedValue first.title "")
  | '=' :: t => g.flagRun first t
  | t => g.flagRun first t

/-- Flags by their letters; none if the first letter is none of a flag. -/
def letters? (g : Grammar) (argument : String) : Text → Option Item
  | [] => none
  | c :: t =>
    (g.options.find? (·.hasLetter c)).map fun o =>
      match g.lettersBehind o t with
      | .ok names => .flags argument (o.name :: names)
      | .error e => .faulty argument e

/-- An argument that is no option of the grammar. -/
def otherItem (argument : String) : Item :=
  if isNegative argument.toList || argument.toList.contains ' ' then .plain argument
  else .unknown argument

/-- An argument that begins with two dashes. -/
def longItem (g : Grammar) (argument : String) : Except Complaint Item :=
  let (name, value) := cutValue argument.toList
  match g.options.find? (·.spelling.toList = name) with
  | some o => .ok (.ofOption argument o value)
  | none =>
    match g.beginning name with
    | [] => .ok (otherItem argument)
    | [o] => .ok (.ofOption argument o value)
    | os => .error (.ambiguous argument (os.map (·.spelling)))

/-- An argument in front of the mark. -/
def item (g : Grammar) (argument : String) : Except Complaint Item :=
  match argument.toList with
  | '-' :: '-' :: _ => g.longItem argument
  | '-' :: c :: t => .ok ((g.letters? argument (c :: t)).getD (otherItem argument))
  | _ => .ok (.plain argument)

/-- The arguments of a command line. -/
def items (g : Grammar) : List String → Except Complaint (List Item)
  | [] => .ok []
  | a :: rest =>
    if a = "--" then .ok (.mark :: rest.map .plain)
    else
      match g.item a with
      | .error e => .error e
      | .ok i => (g.items rest).map (i :: ·)

end Grammar

/-! ## Reading -/

/-- What has been read of a command line. -/
structure Reading where
  /-- The flags that were given. -/
  flags : List String
  /-- The options that were given with their values, the last one first. -/
  values : List (String × Given String)
  operands : List (Given String)
  /-- The operands that may still come. -/
  expected : Operands
  extras : List String
  deriving DecidableEq, Repr

/-- Whether what is given fits an option; nothing always does. -/
def ValueRule.check (name : String) (given : Given String) (rule : ValueRule) :
    Except Complaint Unit :=
  match rule, given with
  | integer, .value v =>
    match Numeral.integer? 10 v.toList with
    | .ok (some _) => .ok ()
    | _ => .error (.badInteger ("--" ++ name) v)
  | oneOf choices, .value v =>
    if v ∈ choices then .ok () else .error (.badChoice ("--" ++ name) v choices)
  | _, _ => .ok ()

namespace Reading

/-- Sets items aside. -/
def setAside (r : Reading) (is : List Item) : Reading :=
  { r with extras := r.extras ++ is.map (·.argument) }

/-- Takes an option with the argument of its value. -/
def take (r : Reading) (name : String) (rule : ValueRule) (argument : String) :
    Except Complaint Reading :=
  let given := Given.ofArgument argument
  (rule.check name given).map fun _ => { r with values := (name, given) :: r.values }

/-- The first operand of some items and what is left; a mark on either side of it goes with it. -/
def firstOperand? : List Item → Option (Given String × List Item)
  | .mark :: .plain a :: rest => some (.value a, rest)
  | .plain a :: .mark :: rest => some (.value a, rest)
  | .plain a :: rest => some (.ofArgument a, rest)
  | _ => none

/-- Takes operands for some names, as long as there are any. -/
def takeNamed (r : Reading) : List String → List Item → Reading
  | [], is => { r with expected := .named [] }.setAside is
  | n :: names, is =>
    match firstOperand? is with
    | none => { r with expected := .named (n :: names) }.setAside is
    | some (a, rest) => { r with operands := r.operands ++ [a] }.takeNamed names rest

/-- The operands among some items. -/
def plainOf (is : List Item) : List (Given String) :=
  is.filterMap fun
    | .plain a => some (.value a)
    | _ => none

/-- Takes operands that stand together. -/
def takeOperands (r : Reading) (is : List Item) : Reading :=
  match r.expected with
  | .named names => r.takeNamed names is
  | .any => { r with operands := r.operands ++ plainOf is, expected := .named [] }
  | .command _ => r.setAside is

/-- Reads items, from left to right. -/
def readItems (r : Reading) : List Item → Except Stop Reading
  | [] => .ok r
  | .unknown a :: rest => (r.setAside [.unknown a]).readItems rest
  | .flags _ names :: rest =>
    if "help" ∈ names then .error .help
    else { r with flags := r.flags ++ names }.readItems rest
  | .faulty _ e :: _ => .error (.complaint e)
  | .valued _ n rule (some v) :: rest =>
    match r.take n rule v with
    | .error e => .error (.complaint e)
    | .ok r => r.readItems rest
  | .valued _ n rule none :: .plain v :: rest =>
    match r.take n rule v with
    | .error e => .error (.complaint e)
    | .ok r => r.readItems rest
  | .valued _ n _ none :: _ => .error (.complaint (.noValue ("--" ++ n)))
  | i :: rest =>
    let together := i :: rest.takeWhile Item.isOperand
    match r.expected, plainOf together with
    | .command _, _ :: _ =>
      .ok { r with operands := (i :: rest).map fun i => .value i.argument, expected := .named [] }
    | _, _ => (r.takeOperands together).readItems (rest.dropWhile Item.isOperand)
termination_by is => is.length
decreasing_by
  all_goals simp only [List.length_cons]
  all_goals have := (List.dropWhile_suffix (l := rest) (p := Item.isOperand)).length_le
  all_goals omega

/-- The names of operands that have not come. -/
def operandsMissing (r : Reading) : List String :=
  match r.expected with
  | .named names => names
  | .any => []
  | .command n => [n]

/-- Whether an option was given with a value. -/
def hasValue (r : Reading) (name : String) : Bool := (r.values.lookup name).isSome

end Reading

/-- Reads the arguments of a command line; extras are not yet complained of. -/
def Grammar.read (g : Grammar) (arguments : List String) : Except Stop Reading :=
  match g.items arguments with
  | .error e => .error (.complaint e)
  | .ok is =>
    match Reading.readItems ⟨[], [], [], g.operands, []⟩ is with
    | .error e => .error e
    | .ok r =>
      let absent := g.options.filter fun o => o.isRequired && !r.hasValue o.name
      match r.operandsMissing ++ absent.map (·.spelling) with
      | [] => .ok r
      | names => .error (.complaint (.missing names))

end Respell.CommandLine
