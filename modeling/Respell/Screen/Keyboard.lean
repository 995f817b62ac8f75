/-
  Keys from the bytes of a terminal.

  A key without a character comes as an escape sequence.  Bytes that are part of no known sequence
  are keys of their own, and so is a lone escape.  A carriage return is the enter key.
-/

namespace Respell.Keyboard

/-- The byte that begins a sequence. -/
def escape : UInt8 := 27

/-- The sequences behind an escape with the keys that they stand for. -/
def sequences : List (List UInt8 × Int) :=
  [([91, 65], 259), ([91, 66], 258), ([91, 67], 261), ([91, 68], 260), ([91, 72], 262),
   ([91, 70], 360), ([91, 51, 126], 330), ([91, 53, 126], 339), ([91, 54, 126], 338)]

/-- The key that a byte stands for. -/
def ofByte (b : UInt8) : Int := if b = 13 then 10 else b.toNat

/-- The sequence at the start of some bytes: its key, and its length less one. -/
def sequence? (bs : List UInt8) : Option (Int × Nat) :=
  (sequences.find? fun s => s.1.isPrefixOf bs).map fun s => (s.2, s.1.length)

/-- The keys of some bytes. -/
def keys : List UInt8 → List Int
  | [] => []
  | b :: bs =>
    match if b = escape then sequence? bs else none with
    | some (key, n) => key :: keys (bs.drop n)
    | none => ofByte b :: keys bs
termination_by bs => bs.length
decreasing_by all_goals simp only [List.length_cons, List.length_drop]; omega

example : keys [27, 91, 65, 97, 13, 27, 49] = [259, 97, 10, 27, 49] := by decide +kernel

end Respell.Keyboard
