/-
  Why a text holds no value.

  Almost every fault makes the whole text malformed, and nothing more is said about it.  The others
  are faults of one scalar: characters, numbers, truth values and dates that do not exist.

  Like all modules under `Respell.Yaml`, this one stands for a library (see `Respell.Yaml.Read`).
-/
import Respell.Calendar
import Respell.Text.Quoted

namespace Respell.Yaml

/-- Why a text holds no value. -/
inductive YamlError where
  /-- The text does not follow the rules of the format. -/
  | malformed
  /-- An escape names a code point beyond the last. -/
  | noCharacter
  /-- An escape names a number that does not fit a machine word. -/
  | hugeCharacter
  /-- An escape names a half of a surrogate pair, which is no character of a text. -/
  | surrogate
  | numeral (e : NumeralError)
  /-- A text that is declared to be an integer is none. -/
  | noInteger (radix : Nat) (t : Text)
  /-- A text that is declared to be a real number is none. -/
  | noReal (t : Text)
  /-- A number has no characters. -/
  | emptyNumber
  /-- A group of a number in base 60 is worth more than any real number. -/
  | hugeGroup
  /-- A text, in lower case, that is declared to be a truth value is none. -/
  | noTruth (t : Text)
  | calendar (e : CalendarError)
  /-- A text that is declared to be a date has not the form of one. -/
  | noDate
  /-- A mapping is declared to be a date. -/
  | dateMapping
  /-- A node is its own default value. -/
  | endless
  deriving DecidableEq, Repr

namespace YamlError

/-- The greatest number of characters of a text that is shown as no integer, quotes included. -/
def shownLength : Nat := 200

/-- What is said about a text that holds no value. -/
def message : YamlError → String
  | malformed => "malformed"
  | noCharacter => "chr() arg not in range(0x110000)"
  | hugeCharacter => "Python int too large to convert to C int"
  | surrogate => "surrogates not allowed"
  | numeral e => e.message
  | noInteger radix t =>
    "invalid literal for int() with base " ++ toString radix ++ ": " ++
      String.ofList ((Text.quoted t).take shownLength)
  | noReal t => "could not convert string to float: " ++ String.ofList (Text.quoted t)
  | emptyNumber => "string index out of range"
  | hugeGroup => "int too large to convert to float"
  | noTruth t => String.ofList (Text.quoted t)
  | calendar e => e.message
  | noDate => "'NoneType' object has no attribute 'groupdict'"
  | dateMapping => "expected string or bytes-like object, got 'list'"
  | endless => "maximum recursion depth exceeded"

/-- Whether a fault is that a text is malformed or that a character, number or date does not exist;
the others come as a surprise. -/
def isExpected : YamlError → Bool
  | malformed => true
  | noCharacter => true
  | numeral _ => true
  | noInteger _ _ => true
  | noReal _ => true
  | calendar _ => true
  | _ => false

end YamlError

end Respell.Yaml
