/-
  What a plain scalar is.

  A plain scalar has the type of the first of these forms that it has as a whole, and is a text if
  it has none.

  - A truth value: yes, no, true, false, on or off; lower, upper or capitalised.
  - A real number: digits with a point and perhaps a signed exponent, or groups of base 60 with a
    point behind the last, or infinity or no number.
  - An integer: binary, octal, decimal, hexadecimal, or groups of base 60.
  - Nothing: a tilde, the word null, or no text at all.
  - A date, or a date and a time of day.
  - The marks of a merged mapping and of a default value.

  Underscores may stand between and behind the digits of a number.  One newline may follow any
  form, in a scalar that is not plain and has its type left to its form.

  Like all modules under `Respell.Yaml`, this one stands for a library (see `Respell.Yaml.Read`).
-/
import Respell.Text

namespace Respell.Yaml

/-- The types of nodes; `other` is one that is not known. -/
inductive Tag where
  | null
  | bool
  | int
  | real
  | date
  | text
  | merge
  | defaultValue
  | sequence
  | mapping
  /-- Bytes, written with 64 characters. -/
  | bytes
  /-- The keys of a mapping. -/
  | set
  /-- A sequence of entries. -/
  | pairs
  | other
  deriving DecidableEq, Repr

namespace Implicit

/-! ## Forms -/

/-- Whether a character is an ASCII digit. -/
def isDigit (c : Char) : Bool := '0' ≤ c && c ≤ '9'

/-- Whether a character is a digit or an underscore. -/
def isDigitPlace (c : Char) : Bool := isDigit c || c = '_'

/-- A text without the sign at its start. -/
def unsigned (t : Text) : Text :=
  match t with
  | '-' :: r => r
  | '+' :: r => r
  | _ => t

/-- The words that are one word in lower case, capitalised or in upper case. -/
def spellings (w : String) : List String := [w, w.capitalize, w.toUpper]

/-- The words that mean true. -/
def trueWords : List String := spellings "yes" ++ spellings "true" ++ spellings "on"

/-- The words that mean false. -/
def falseWords : List String := spellings "no" ++ spellings "false" ++ spellings "off"

/-- Whether a text is a truth value. -/
def isBool (t : Text) : Bool := (trueWords ++ falseWords).contains (String.ofList t)

/-- Whether a text is nothing. -/
def isNull (t : Text) : Bool := ["", "~", "null", "Null", "NULL"].contains (String.ofList t)

/-- Whether a text begins with a digit and goes on with digits and underscores. -/
def isDigitRun (t : Text) : Bool :=
  match t with
  | [] => false
  | c :: r => isDigit c && r.all isDigitPlace

/-- Whether a text is a group of base 60 behind the first one. -/
def isSixtieth : Text → Bool
  | [d] => isDigit d
  | [t, d] => '0' ≤ t && t ≤ '5' && isDigit d
  | _ => false

/-- Whether a text is a run of digits and then groups of base 60, one or more, behind colons. -/
def isSexagesimal (t : Text) : Bool :=
  match Text.split ':' t with
  | first :: g :: gs => isDigitRun first && (g :: gs).all isSixtieth
  | _ => false

/-- Whether a text is one or more characters of a class. -/
def isSomeOf (p : Char → Bool) (t : Text) : Bool := !t.isEmpty && t.all p

/-- Whether a text is an integer. -/
def isInt (t : Text) : Bool :=
  match unsigned t with
  | ['0'] => true
  | '0' :: 'b' :: r => isSomeOf (fun c => c = '0' || c = '1' || c = '_') r
  | '0' :: 'x' :: r =>
    isSomeOf (fun c => isDigitPlace c || ('a' ≤ c && c ≤ 'f') || ('A' ≤ c && c ≤ 'F')) r
  | '0' :: r => isSomeOf (fun c => ('0' ≤ c && c ≤ '7') || c = '_') r
  | r => isDigitRun r || isSexagesimal r

example : isInt "-1_0".toList = true ∧ isInt "08".toList = false := by decide +kernel
example : isInt "190:20:30".toList = true := by decide +kernel

/-- Whether a text is an exponent with a sign, or nothing. -/
def isExponent : Text → Bool
  | [] => true
  | 'e' :: s :: r => (s = '+' || s = '-') && isSomeOf isDigit r
  | 'E' :: s :: r => (s = '+' || s = '-') && isSomeOf isDigit r
  | _ => false

/-- Whether a text is what may follow a point: digits and underscores, and perhaps an exponent. -/
def isFraction (t : Text) : Bool := isExponent (t.dropWhile isDigitPlace)

/-- Whether a text is a real number with digits in front of its point. -/
def isPointed (t : Text) : Bool :=
  let whole := t.takeWhile (· ≠ '.')
  match t.dropWhile (· ≠ '.') with
  | _ :: fraction =>
    (isDigitRun whole && isFraction fraction) || (isSexagesimal whole && fraction.all isDigitPlace)
  | [] => false

/-- Whether a text is a real number. -/
def isReal (t : Text) : Bool :=
  isPointed (unsigned t) || [".inf", ".Inf", ".INF"].contains (String.ofList (unsigned t)) ||
    [".nan", ".NaN", ".NAN"].contains (String.ofList t) ||
    match t with
    | '.' :: d :: r => isDigit d && isFraction r
    | _ => false

example : isReal "1.5e+3".toList = true ∧ isReal "1e5".toList = false := by decide +kernel
example : isReal ".5".toList = true := by decide +kernel

/-! ## Dates -/

/-- Takes between `least` and `most` digits off the start of a text. -/
def digits? (least most : Nat) (t : Text) : Option Text :=
  let n := ((t.take most).takeWhile isDigit).length
  if n < least then none else some (t.drop n)

/-- Takes one of some characters off the start of a text. -/
def one? (cs : List Char) : Text → Option Text
  | [] => none
  | c :: t => if cs.contains c then some t else none

/-- Whether a text is a distance from universal time, perhaps behind blanks, or nothing. -/
def isZone (t : Text) : Bool :=
  match t.dropWhile fun c => c = ' ' || c = '\t' with
  | [] => t.isEmpty
  | ['Z'] => true
  | s :: r =>
    (s = '+' || s = '-') &&
      match digits? 1 2 r with
      | none => false
      | some [] => true
      | some r => ((one? [':'] r).bind (digits? 2 2)) = some []

/-- Whether a text is a time of day behind a date, with or without a zone. -/
def isTime (t : Text) : Bool :=
  let hour :=
    match t with
    | 'T' :: r => some r
    | 't' :: r => some r
    | ' ' :: r => some (r.dropWhile fun c => c = ' ' || c = '\t')
    | '\t' :: r => some (r.dropWhile fun c => c = ' ' || c = '\t')
    | _ => none
  match (((((hour.bind (digits? 1 2)).bind (one? [':'])).bind (digits? 2 2)).bind (one? [':'])).bind
      (digits? 2 2)) with
  | none => false
  | some ('.' :: r) => isZone (r.dropWhile isDigit)
  | some r => isZone r

/-- What follows the date at the start of a text; month and day have at least `least` digits. -/
def afterDate? (least : Nat) (t : Text) : Option Text :=
  let afterMonth := ((digits? 4 4 t).bind (one? ['-'])).bind (digits? least 2)
  (afterMonth.bind (one? ['-'])).bind (digits? least 2)

/-- Whether a text is a date, or a date and a time; month and day of a date alone have at least
`least` digits. -/
def isDate (least : Nat) (t : Text) : Bool :=
  afterDate? least t = some [] ||
    match afterDate? 1 t with
    | none => false
    | some r => isTime r

example : isDate 2 "2001-01-01".toList = true ∧ isDate 2 "2001-1-1".toList = false := by
  decide +kernel
example : isDate 2 "2001-1-1T1:02:03.5 +01:30".toList = true := by decide +kernel

/-! ## Types -/

/-- A text without one newline at its end. -/
def dropNewline (t : Text) : Text := if t.getLast? = some '\n' then t.dropLast else t

/-- The type of a text by the form that it has as a whole. -/
def formOf (t : Text) : Tag :=
  if isBool t then .bool
  else if isReal t then .real
  else if isInt t then .int
  else if t = ['<', '<'] then .merge
  else if isNull t then .null
  else if isDate 2 t then .date
  else if t = ['='] then .defaultValue
  else .text

/-- The type of a scalar that has its type by its form. -/
def tagOf (t : Text) : Tag :=
  match t with
  | ['\n'] => .text
  | _ => formOf (dropNewline t)

example : tagOf "5\n".toList = .int ∧ tagOf "5\n\n".toList = .text := by decide +kernel

end Implicit

end Respell.Yaml
