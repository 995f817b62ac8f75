/-
  The quoted form of a text, in which messages show what a user wrote.

  1. **The quotes** are single, unless the text holds a single quote and no double one.
  2. **Escapes.**  The quote in use and the backslash get a backslash; tab, newline and carriage
     return have letters; any other character that is not printable is written by its code point,
     with two, four or eight lower-case hexadecimal digits, the fewest that do.
  3. All else stands for itself.
  4. **Bytes** are quoted like the text of their code points behind a letter; of these the
     printable ASCII characters alone stand for themselves.
-/
import Respell.Text
import Respell.Text.Printable

namespace Respell.Text

/-- The lower-case hexadecimal digit of a number below sixteen. -/
def hexLower (d : Nat) : Char := if d < 10 then Char.ofNat (48 + d) else Char.ofNat (87 + d)

/-- The `n` lowest hexadecimal digits of a number, lower case. -/
def hexDigits : Nat → Nat → Text
  | 0, _ => []
  | n + 1, v => hexDigits n (v / 16) ++ [hexLower (v % 16)]

example : hexDigits 4 0x2028 = ['2', '0', '2', '8'] := by decide

/-- A character by its code point. -/
def codeEscape (c : Char) : Text :=
  let v := c.toNat
  if v < 0x100 then '\\' :: 'x' :: hexDigits 2 v
  else if v < 0x10000 then '\\' :: 'u' :: hexDigits 4 v
  else '\\' :: 'U' :: hexDigits 8 v

/-- A character as it stands between two quotes `q`. -/
def quotedChar (q c : Char) : Text :=
  if c = q ∨ c = '\\' then ['\\', c]
  else if c = '\t' then ['\\', 't']
  else if c = '\n' then ['\\', 'n']
  else if c = '\r' then ['\\', 'r']
  else if isPrintable c then [c]
  else codeEscape c

/-- The quote that a text gets. -/
def quoteOf (t : Text) : Char := if t.contains '\'' ∧ ¬ t.contains '"' then '"' else '\''

/-- The quoted form of a text. -/
def quoted (t : Text) : Text :=
  let q := quoteOf t
  q :: t.flatMap (quotedChar q) ++ [q]

example : quoted ['a', '\n'] = ['\'', 'a', '\\', 'n', '\''] := by decide
example : quoted ['\''] = ['"', '\'', '"'] := by decide
example : quoted ['\'', '"'] = ['\'', '\\', '\'', '"', '\''] := by decide
example : quoted ['\x7f'] = ['\'', '\\', 'x', '7', 'f', '\''] := by decide

/-- A character below 256 as it stands between two quotes `q` for a byte. -/
def quotedByte (q c : Char) : Text := if c.toNat < 0x7F then quotedChar q c else codeEscape c

/-- The quoted form of bytes. -/
def quotedBytes (bs : List UInt8) : Text :=
  let t := bs.map fun b => Char.ofNat b.toNat
  let q := quoteOf t
  'b' :: q :: t.flatMap (quotedByte q) ++ [q]

example : quotedBytes [104, 39, 255] = "b\"h'\\xff\"".toList := by decide +kernel

end Respell.Text

namespace Respell

/-- The quoted form of a string. -/
def quote (s : String) : String := String.ofList (Text.quoted s.toList)

example : quote "it's" = "\"it's\"" := by decide

end Respell
