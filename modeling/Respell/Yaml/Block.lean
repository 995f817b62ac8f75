/-
  Scalars in blocks.

  A block scalar begins with `|` or `>`, and its text is the lines below that are indented more than
  what it stands in.  Two marks may follow, in any order: a digit that gives the indentation, which
  is otherwise that of the first line, and a sign that says what becomes of the breaks at the end.
  Without a sign one is kept, with a minus none, with a plus all.  After `>` a break between two
  lines that do not begin with a space or tab is folded.

  Like all modules under `Respell.Yaml`, this one stands for a library (see `Respell.Yaml.Read`).
-/
import Respell.Yaml.Cursor
import Respell.Yaml.Error
import Respell.Numeral

namespace Respell.Yaml.Block

/-- What becomes of the line breaks at the end of a block scalar. -/
inductive Chomping where
  | clip
  | strip
  | keep
  deriving DecidableEq, Repr

/-- The chomping that a sign asks for. -/
def chompingOf? : Option Char → Option Chomping
  | some '+' => some .keep
  | some '-' => some .strip
  | _ => none

/-- The indentation that a digit asks for. -/
def indentOf? : Option Char → Option Nat
  | none => none
  | some c => if c.isDigit then some (c.toNat - 48) else none

/-- The marks behind the first character: chomping, indentation, and the cursor behind them. -/
def marks (c : Cursor) : Chomping × Option Nat × Cursor :=
  match chompingOf? c.peek with
  | some ch =>
    match indentOf? c.next.peek with
    | some n => (ch, some n, c.next.next)
    | none => (ch, none, c.next)
  | none =>
    match indentOf? c.peek with
    | none => (.clip, none, c)
    | some n =>
      match chompingOf? c.next.peek with
      | some ch => (ch, some n, c.next.next)
      | none => (.clip, some n, c.next)

/-- The start of the line below; the rest of this line is blank but for a comment. -/
def nextLine (c : Cursor) : Except YamlError Cursor :=
  let c := c.skipSpaces.skipComment
  match c.lineBreak? with
  | some (_, c) => .ok c
  | none => if c.peek = none then .ok c else .error .malformed

/-- The breaks of the lines that hold only spaces, and the greatest column that spaces reach. -/
def leading : Nat → Cursor → Text × Nat × Cursor
  | 0, c => ([], 0, c)
  | n + 1, c =>
    let c := c.skipSpaces
    match c.lineBreak? with
    | none => ([], c.column, c)
    | some (b, d) =>
      let (t, column, e) := leading n d
      (b :: t, max c.column column, e)

/-- The cursor behind spaces in front of a column. -/
def skipIndent (indent : Nat) (c : Cursor) : Cursor :=
  c.skip ((c.rest.take (indent - c.column)).takeWhile (· = ' ')).length

/-- The breaks of lines that hold nothing but spaces in front of a column. -/
def breaks (indent : Nat) : Nat → Cursor → Text × Cursor
  | 0, c => ([], c)
  | n + 1, c =>
    let c := skipIndent indent c
    match c.lineBreak? with
    | none => ([], c)
    | some (b, c) =>
      let (t, c) := breaks indent n c
      (b :: t, c)

/-- Whether a line of the scalar begins here. -/
def atLine (indent : Nat) (c : Cursor) : Bool := c.column = indent && c.peek.isSome

/-- Whether what stands here is neither a space nor a tab. -/
def startsWord (c : Cursor) : Bool :=
  match c.peek with
  | none => true
  | some x => !isSpace x

/-- The break at the end of a line as text. -/
def breakText : Option (Char × Cursor) → Text
  | none => []
  | some (b, _) => [b]

/-- How the break between two lines is written, before the empty lines that follow it. -/
def between (fold : Bool) (b empty : Text) (words : Bool) : Text :=
  if fold && b = ['\n'] && words then (if empty.isEmpty then [' '] else []) else b

/-- The end of a scalar: the last break and the empty lines behind it. -/
def ending (ch : Chomping) (b empty : Text) : Text :=
  match ch with
  | .strip => []
  | .clip => b
  | .keep => b ++ empty

/-- The lines of a scalar, at most `n`, each behind its empty lines. -/
def lines (fold : Bool) (ch : Chomping) (indent : Nat) : Nat → Text → Cursor → Text × Cursor
  | 0, empty, c => (ending ch [] empty, c)
  | n + 1, empty, c =>
    let word := startsWord c
    let (line, c) := c.run (!isBreak ·)
    let b := breakText c.lineBreak?
    let (more, c) := breaks indent (c.rest.length + 1) (c.skip b.length)
    if atLine indent c then
      let (t, d) := lines fold ch indent n more c
      (empty ++ line ++ between fold b more (word && startsWord c) ++ t, d)
    else (empty ++ line ++ ending ch b more, c)

/-- The block scalar that stands here, in something with an indentation. -/
def read (fold : Bool) (indent : Int) (c : Cursor) : Except YamlError (Text × Cursor) :=
  let (ch, width, c) := marks c.next
  if width = some 0 ∨ !isSpaceOrEnd c.peek then .error .malformed
  else
    match nextLine c with
    | .error e => .error e
    | .ok c =>
      let least := (max (indent + 1) 1).toNat
      let n := c.rest.length + 1
      let (empty, column, d) :=
        match width with
        | some w =>
          let (t, d) := breaks (least + w - 1) n c
          (t, least + w - 1, d)
        | none =>
          let (t, column, d) := leading n c
          (t, max least column, d)
      if atLine column d then .ok (lines fold ch column n empty d) else .ok (ending ch [] empty, d)

example :
    (read false 0 (Cursor.start "|\n a\n\n b\nc".toList)).map (·.1) = .ok "a\n\nb\n".toList := by
  decide +kernel
example :
    (read true 0 (Cursor.start ">-\n a\n b\n\n c\n".toList)).map (·.1) = .ok "a b\nc".toList := by
  decide +kernel

end Respell.Yaml.Block
