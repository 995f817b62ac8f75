/-
  Text as bytes.

  1. **Encoding** writes each code point in one to four bytes, `encode`.

  2. **Pieces.**  A list of bytes falls into pieces from the left.  A piece is one encoded
     character, or a longest part that begins like one and cannot be continued: a byte that begins
     nothing, or the bytes of a character up to the one that does not fit, or up to the end.  Which
     bytes fit after the first excludes overlong forms, surrogates and values above U+10FFFF.

  3. **Decoding.**  `decodeLossy` puts the replacement character for each piece that is no
     character.  `decode` refuses such bytes, and tells where the first such piece is and why.
-/
import Respell.Outcome
import Respell.Text.Quoted

namespace Respell.Utf8

/-! ## Encoding -/

/-- A continuation byte with the low six bits of a number. -/
def trailByte (n : Nat) : UInt8 := (0x80 + n % 64).toUInt8

/-- The bytes of one character. -/
def encodeChar (c : Char) : List UInt8 :=
  let n := c.toNat
  if n < 0x80 then [n.toUInt8]
  else if n < 0x800 then [(0xC0 + n / 64).toUInt8, trailByte n]
  else if n < 0x10000 then [(0xE0 + n / 4096).toUInt8, trailByte (n / 64), trailByte n]
  else [(0xF0 + n / 262144).toUInt8, trailByte (n / 4096), trailByte (n / 64), trailByte n]

/-- The bytes of a text. -/
def encode (t : Text) : List UInt8 := t.flatMap encodeChar

example : encode ['a', 'é', '⟶', '😀'] =
    [0x61, 0xC3, 0xA9, 0xE2, 0x9F, 0xB6, 0xF0, 0x9F, 0x98, 0x80] := by decide

/-! ## Pieces -/

/-- Why bytes are no character. -/
inductive Fault where
  /-- The first byte begins no character. -/
  | start
  /-- The next byte cannot follow. -/
  | continuation
  /-- There is no next byte. -/
  | ended
  deriving DecidableEq, Repr

namespace Fault

/-- The words for a fault. -/
def message : Fault → String
  | start => "invalid start byte"
  | continuation => "invalid continuation byte"
  | ended => "unexpected end of data"

end Fault

/-- A character, or bytes that are none; each with the number of bytes. -/
inductive Piece where
  | char (c : Char) (length : Nat)
  | bad (fault : Fault) (length : Nat)
  deriving DecidableEq, Repr

namespace Piece

/-- The number of bytes of a piece. -/
def length : Piece → Nat
  | char _ n => n
  | bad _ n => n

end Piece

/-- How many bytes follow a first byte; `none` if it begins nothing. -/
def following? (b : UInt8) : Option Nat :=
  if b < 0x80 then some 0
  else if b < 0xC2 then none
  else if b < 0xE0 then some 1
  else if b < 0xF0 then some 2
  else if b < 0xF5 then some 3
  else none

/-- The bits of a first byte that belong to the character. -/
def leadBits (b : UInt8) : Nat :=
  if b < 0x80 then b.toNat
  else if b < 0xE0 then b.toNat % 32
  else if b < 0xF0 then b.toNat % 16
  else b.toNat % 8

/-- Whether a byte may be the second after a first byte. -/
def fitsSecond (b c : UInt8) : Bool :=
  let lo : UInt8 := if b = 0xE0 then 0xA0 else if b = 0xF0 then 0x90 else 0x80
  let hi : UInt8 := if b = 0xED then 0x9F else if b = 0xF4 then 0x8F else 0xBF
  lo ≤ c && c ≤ hi

/-- Whether a byte may be the third or fourth of a character. -/
def fitsLater (c : UInt8) : Bool := 0x80 ≤ c && c ≤ 0xBF

/-- The piece of which `taken` bytes with the bits `bits` are read and `n` are to follow. -/
def follow (fits : UInt8 → Bool) (taken bits : Nat) : Nat → List UInt8 → Piece
  | 0, _ => .char (Char.ofNat bits) taken
  | _ + 1, [] => .bad .ended taken
  | n + 1, c :: cs =>
    if fits c then follow fitsLater (taken + 1) (bits * 64 + c.toNat % 64) n cs
    else .bad .continuation taken

/-- The first piece of some bytes. -/
def piece (b : UInt8) (bs : List UInt8) : Piece :=
  match following? b with
  | none => .bad .start 1
  | some n => follow (fitsSecond b) 1 (leadBits b) n bs

example : piece 0xE2 [0x82, 0xAC, 0x41] = .char '€' 3 := by decide
example : piece 0xE2 [0x82, 0x28] = .bad .continuation 2 ∧ piece 0xF0 [0x9F] = .bad .ended 2 := by
  decide

/-- The pieces of some bytes from left to right. -/
def pieces : List UInt8 → List Piece
  | [] => []
  | b :: bs => piece b bs :: pieces (bs.drop ((piece b bs).length - 1))
termination_by bs => bs.length
decreasing_by simp only [List.length_cons, List.length_drop]; omega

/-! ## Decoding -/

/-- The character that stands for a piece. -/
def lossyChar : Piece → Char
  | .char c _ => c
  | .bad _ _ => '\ufffd'

/-- The text of some bytes, with a replacement character for each piece that is none. -/
def decodeLossy (bs : List UInt8) : Text := (pieces bs).map lossyChar

/-- Bytes that are no text: the fault, the place of the first such piece, and its bytes. -/
structure DecodeError where
  fault : Fault
  start : Nat
  bytes : List UInt8
  deriving DecidableEq, Repr

namespace DecodeError

/-- The bytes that a message names, by value and place if it is one, by its ends if there are more.
-/
def place (e : DecodeError) : String :=
  match e.bytes with
  | [b] => "byte 0x" ++ String.ofList (Text.hexDigits 2 b.toNat) ++ " in position " ++
      toString e.start
  | bs => "bytes in position " ++ toString e.start ++ "-" ++ toString (e.start + bs.length - 1)

/-- What is said about bytes that are no text. -/
def message (e : DecodeError) : String :=
  "'utf-8' codec can't decode " ++ e.place ++ ": " ++ e.fault.message

end DecodeError

/-- The characters of some pieces of the bytes `bs`, which stand at offset `pos`. -/
def textOf (pos : Nat) (bs : List UInt8) : List Piece → Except DecodeError Text
  | [] => .ok []
  | .char c n :: ps => (textOf (pos + n) (bs.drop n) ps).map (c :: ·)
  | .bad f n :: _ => .error ⟨f, pos, bs.take n⟩

/-- The text of some bytes, or why they are none. -/
def decode (bs : List UInt8) : Except DecodeError Text := textOf 0 bs (pieces bs)

example : decode [0x61, 0xC3, 0xA9] = .ok ['a', 'é'] := by decide +kernel
example : decode [0x61, 0xFF] = .error ⟨.start, 1, [0xFF]⟩ := by decide +kernel
example : decodeLossy [0xE2, 0x82, 0x28] = ['\ufffd', '('] := by decide +kernel

end Respell.Utf8
