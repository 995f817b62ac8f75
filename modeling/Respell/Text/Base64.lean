/-
  Bytes that are written with 64 characters.

  Four characters, six bits each, write three bytes.  Any other character counts for nothing, so
  that the text may be broken into lines.  A last group of two or three characters writes one or two
  bytes; it needs padding up to four characters, and nothing behind the padding is read.
-/
import Respell.Text

namespace Respell.Text.Base64

/-- What a character is worth, below 64. -/
def sextet? (c : Char) : Option Nat :=
  if 'A' ≤ c ∧ c ≤ 'Z' then some (c.toNat - 65)
  else if 'a' ≤ c ∧ c ≤ 'z' then some (c.toNat - 71)
  else if '0' ≤ c ∧ c ≤ '9' then some (c.toNat + 4)
  else if c = '+' then some 62
  else if c = '/' then some 63
  else none

/-- What is read of a group of four characters: how many, the bits that make no byte yet, and how
many signs of padding came last. -/
structure Group where
  read : Nat
  bits : Nat
  padding : Nat

namespace Group

/-- A group of which nothing is read. -/
def start : Group := ⟨0, 0, 0⟩

/-- The group behind one more character, and the byte that it completes. -/
def add (g : Group) (v : Nat) : Group × List UInt8 :=
  match g.read with
  | 0 => (⟨1, v, 0⟩, [])
  | 1 => (⟨2, v % 16, 0⟩, [(g.bits * 4 + v / 16).toUInt8])
  | 2 => (⟨3, v % 4, 0⟩, [(g.bits * 16 + v / 4).toUInt8])
  | _ => (start, [(g.bits * 64 + v).toUInt8])

/-- The group behind a sign of padding, which counts from the third place on. -/
def pad (g : Group) : Group := if g.read < 2 then g else { g with padding := g.padding + 1 }

/-- Whether padding has filled a group. -/
def isFilled (g : Group) : Bool := 4 ≤ g.read + g.padding && 2 ≤ g.read

end Group

/-- The bytes that the rest of a text writes behind a group that is begun; none if the last group
is not filled. -/
def decodeBehind (g : Group) : Text → Option (List UInt8)
  | [] => if g.read = 0 then some [] else none
  | '=' :: t => if g.pad.isFilled then some [] else decodeBehind g.pad t
  | c :: t =>
    match sextet? c with
    | none => decodeBehind g t
    | some v => (decodeBehind (g.add v).1 t).map ((g.add v).2 ++ ·)

/-- The bytes that a text writes. -/
def decode (t : Text) : Option (List UInt8) := decodeBehind .start t

example : decode "TWFu".toList = some [77, 97, 110] := by decide +kernel
example : decode "T\nQ==".toList = some [77] ∧ decode "TQ=".toList = none := by decide +kernel
example : decode "TQ==TWFu".toList = some [77] ∧ decode "=".toList = some [] := by decide +kernel

end Respell.Text.Base64
