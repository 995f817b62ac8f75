/-
  The ways a value is shown.

  1. **Conversions.**  A value in all four bases, and two renderings of them: the remark that is
     drawn after a literal, and the panel of eight lines that describes one.

  2. **Bytes.**  The hexadecimal digits, at least eight and an even number of them, cut in pairs:
     big end first, and the same pairs reversed.  A negative value keeps its sign, which takes up
     one of the eight places.

  3. **Bits.**  The low 32 bits, two's complement below zero, as a row of binary digits.
-/
import Respell.Numeral

namespace Respell.View

/-! ## Conversions -/

/-- A value written in every base. -/
structure Conversions where
  dec : Text
  hex : Text
  bin : Text
  oct : Text
  deriving DecidableEq, Repr

/-- A value written in every base; the first base that fails decides. -/
def conversions (v : Int) : Except NumeralError Conversions := do
  let dec ← Numeral.write .decimal v
  let hex ← Numeral.write .hex v
  let bin ← Numeral.write .binary v
  let oct ← Numeral.write .octal v
  pure ⟨dec, hex, bin, oct⟩

/-- What is drawn after a literal with the given conversions. -/
def Conversions.remark (c : Conversions) : Text :=
  " ⟶ Dec: ".toList ++ c.dec ++ " | Hex: ".toList ++ c.hex ++ " | Bin: ".toList ++ c.bin ++
    " | Oct: ".toList ++ c.oct

/-- What is drawn after a literal with a value. -/
def remark (v : Int) : Except NumeralError Text := (conversions v).map (·.remark)

/-! ## Bytes -/

/-- The upper-case hexadecimal digits of a value in at least eight places, sign included. -/
def paddedHex : Int → Text
  | .ofNat n => Text.padLeft 8 '0' (Numeral.digitsText 16 n)
  | .negSucc n => '-' :: Text.padLeft 7 '0' (Numeral.digitsText 16 (n + 1))

/-- A text with a zero in front if its length is odd. -/
def evened (t : Text) : Text := if t.length % 2 = 1 then '0' :: t else t

/-- A text cut in pairs from the left. -/
def pairs : Text → List Text
  | [] => []
  | [c] => [[c]]
  | c :: d :: t => [c, d] :: pairs t

/-- The bytes of a value, most significant first. -/
def bigEndian (v : Int) : List Text := pairs (evened (paddedHex v))

/-- The bytes of a value, least significant first. -/
def littleEndian (v : Int) : List Text := (bigEndian v).reverse

example : bigEndian 255 = [['0', '0'], ['0', '0'], ['0', '0'], ['F', 'F']] := by decide +kernel
example : bigEndian (-255) = [['-', '0'], ['0', '0'], ['0', '0'], ['F', 'F']] := by decide +kernel

/-! ## The panel -/

/-- The lines that describe a value: its conversions, then its bytes in both orders. -/
def panel (v : Int) : Except NumeralError (List Text) :=
  (conversions v).map fun c =>
    [ c.dec ++ " ⟶ ".toList ++ c.hex ++ " | ".toList ++ c.bin ++ " | ".toList ++ c.oct,
      "Dec: ".toList ++ c.dec,
      "Hex: ".toList ++ c.hex,
      "Bin: ".toList ++ c.bin,
      "Oct: ".toList ++ c.oct,
      "Endianness".toList,
      "  Big: ".toList ++ Text.join [' '] (bigEndian v),
      "  Little: ".toList ++ Text.join [' '] (littleEndian v) ]

/-! ## Bits -/

/-- The low 32 bits of a value as a number. -/
def word (v : Int) : Nat := (v % 4294967296).toNat

/-- The low 32 bits of a value, most significant first. -/
def bitRow (v : Int) : Text := Text.padLeft 32 '0' (Numeral.digitsText 2 (word v))

example : bitRow 5 = List.replicate 29 '0' ++ ['1', '0', '1'] := by decide +kernel
example : bitRow (-1) = List.replicate 32 '1' := by decide +kernel

end Respell.View
