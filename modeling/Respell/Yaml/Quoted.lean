/-
  Scalars between quotes.

  Between single quotes a quote is written twice, and all else stands for itself.  Between double
  quotes a backslash begins an escape.  In both, a line break with the spaces and tabs around it is
  folded: alone it is a space, and each empty line behind it is a newline.  A backslash at the end
  of a line takes the break away.  No line between quotes may look like the mark of a document.

  The functions that go over breaks and parts take a bound on their number, which the rest of the
  text gives.

  Like all modules under `Respell.Yaml`, this one stands for a library (see `Respell.Yaml.Read`).
-/
import Respell.Yaml.Cursor
import Respell.Yaml.Error

namespace Respell.Yaml.Quoted

/-! ## Escapes -/

/-- The characters that escapes of one letter stand for. -/
def letters : List (Char × Char) :=
  [('0', '\x00'), ('a', '\x07'), ('b', '\x08'), ('t', '\t'), ('\t', '\t'), ('n', '\n'),
   ('v', '\x0b'), ('f', '\x0c'), ('r', '\x0d'), ('e', '\x1b'), (' ', ' '), ('"', '"'),
   ('\\', '\\'), ('/', '/'), ('N', '\x85'), ('_', '\xa0'), ('L', '\u2028'), ('P', '\u2029')]

/-- The number of hexadecimal digits behind a letter that begins a code point. -/
def codeLength? (c : Char) : Option Nat :=
  if c = 'x' then some 2 else if c = 'u' then some 4 else if c = 'U' then some 8 else none

/-- The character with a code point.  The halves of surrogate pairs, which the format lets an escape
name, are no characters here: a text with one is refused. -/
def ofCode (v : Nat) : Except YamlError Char :=
  if 0x7FFFFFFF < v then .error .hugeCharacter
  else if 0x10FFFF < v then .error .noCharacter
  else if v.isValidChar then .ok (Char.ofNat v)
  else .error .surrogate

/-- The character written with `n` hexadecimal digits. -/
def codeChar (n : Nat) (c : Cursor) : Except YamlError (Char × Cursor) :=
  let ds := c.rest.take n
  if ds.length = n ∧ ds.all Base.hex.hasDigit then
    (ofCode (Numeral.valueOf .hex ds)).map fun x => (x, c.skip n)
  else .error .malformed

/-! ## Line breaks -/

/-- The empty lines that follow a line break, as newlines, and the cursor behind the spaces. -/
def emptyLines : Nat → Cursor → Except YamlError (Text × Cursor)
  | 0, c => .ok ([], c)
  | n + 1, c =>
    if c.hasDocumentMark then .error .malformed
    else
      let c := (c.run isSpace).2
      match c.lineBreak? with
      | none => .ok ([], c)
      | some (b, c) => (emptyLines n c).map fun r => (b :: r.1, r.2)

/-- A line break and the empty lines behind it, folded. -/
def folded (b : Char) (empty : Text) : Text :=
  if b ≠ '\n' then b :: empty else if empty.isEmpty then [' '] else empty

/-- The spaces, tabs and line breaks that stand here, folded. -/
def gap (c : Cursor) : Except YamlError (Text × Cursor) :=
  let (spaces, c) := c.run isSpace
  match c.peek with
  | none => .error .malformed
  | some _ =>
    match c.lineBreak? with
    | none => .ok (spaces, c)
    | some (b, c) => (emptyLines (c.rest.length + 1) c).map fun r => (folded b r.1, r.2)

/-! ## Scalars -/

/-- What an escape stands for; the cursor is behind the backslash. -/
def escape (c : Cursor) : Except YamlError (Text × Cursor) :=
  match c.peek with
  | none => .error .malformed
  | some x =>
    match letters.lookup x with
    | some y => .ok ([y], c.next)
    | none =>
      match codeLength? x with
      | some n => (codeChar n c.next).map fun r => ([r.1], r.2)
      | none =>
        match c.lineBreak? with
        | some (_, c) => emptyLines (c.rest.length + 1) c
        | none => .error .malformed

/-- Whether a character may be a part of a scalar with no further thought. -/
def isOrdinary (c : Char) : Bool := !(isSpace c || isBreak c || c = '\'' || c = '"' || c = '\\')

/-- The scalar up to its closing quote `q`, in at most `n` parts. -/
def scalar (q : Char) : Nat → Cursor → Except YamlError (Text × Cursor)
  | 0, _ => .error .malformed
  | n + 1, c =>
    match c.peek with
    | none => .error .malformed
    | some x =>
      let part : Except YamlError (Text × Cursor) :=
        if isOrdinary x then .ok (c.run isOrdinary)
        else if x = '\\' ∧ q = '"' then escape c.next
        else if isSpace x || isBreak x then gap c
        else .ok ([x], c.next)
      if x = q then
        if q = '\'' ∧ c.peekAt 1 = some q then
          (scalar q n (c.skip 2)).map fun r => (q :: r.1, r.2)
        else .ok ([], c.next)
      else
        match part with
        | .error e => .error e
        | .ok (t, c) => (scalar q n c).map fun r => (t ++ r.1, r.2)

/-- The scalar whose opening quote stands here. -/
def read (q : Char) (c : Cursor) : Except YamlError (Text × Cursor) :=
  scalar q (c.rest.length + 1) c.next

example :
    (read '"' (Cursor.start "\"a\\tb\\x41\" c".toList)).map (·.1) = .ok ['a', '\t', 'b', 'A'] := by
  decide +kernel
example : (read '\'' (Cursor.start "'it''s\n\n  x'".toList)).map (·.1) = .ok "it's\nx".toList := by
  decide +kernel

end Respell.Yaml.Quoted
