/-
  Scalars without quotes.

  A plain scalar ends at a colon before a gap and at a number sign behind one.  Inside brackets the
  characters of the flow style end it too, and a colon in front of such a character.  It may go on
  in later lines that are indented more than what it stands in; their breaks are folded as between
  quotes.  A tab ends it where it stands.

  Like all modules under `Respell.Yaml`, this one stands for a library (see `Respell.Yaml.Read`).
-/
import Respell.Yaml.Quoted

namespace Respell.Yaml.Plain

/-- Whether a character separates the members of a flow collection. -/
def isFlowChar (c : Char) : Bool := c = ',' || c = '[' || c = ']' || c = '\x7b' || c = '\x7d'

/-- Whether a colon here is not a part of a scalar, by the character behind it. -/
def endsAfterColon (flow : Bool) (x : Option Char) : Bool :=
  isGap x || (flow && match x with
    | none => false
    | some c => isFlowChar c)

/-- The number of characters at the start of a text that belong to a plain scalar. -/
def wordLength (flow : Bool) : Text → Nat
  | [] => 0
  | c :: t =>
    if isSpace c || isBreak c || (c = ':' && endsAfterColon flow t.head?) ||
        (flow && (isFlowChar c || c = '?')) then 0
    else wordLength flow t + 1

example : wordLength false "a:b: c".toList = 3 ∧ wordLength true "a?b".toList = 1 := by decide

/-- The empty lines behind a line break, as newlines; none if a document ends there. -/
def emptyLines : Nat → Cursor → Option (Text × Cursor)
  | 0, c => some ([], c)
  | n + 1, c =>
    if c.hasDocumentMark then none
    else
      let c := c.skipSpaces
      match c.lineBreak? with
      | none => some ([], c)
      | some (b, c) => (emptyLines n c).map fun r => (b :: r.1, r.2)

/-- What stands between two words of a scalar, folded, and whether it holds a line break; nothing if
a document ends there. -/
def gap (c : Cursor) : Text × Bool × Cursor :=
  let (spaces, c) := c.run (· = ' ')
  match c.lineBreak? with
  | none => (spaces, false, c)
  | some (b, c) =>
    match emptyLines (c.rest.length + 1) c with
    | none => ([], true, c)
    | some (t, c) => (Quoted.folded b t, true, c)

/-- A plain scalar: its text, whether a line break was passed behind its last word, and the cursor
behind it. -/
structure Scan where
  text : Text
  broken : Bool
  cursor : Cursor
  deriving DecidableEq, Repr

/-- The words of a scalar that is indented at least to `indent`, at most `n` of them; `before` is
what stands in front of the next word.  -/
def words (flow : Bool) (indent : Int) : Nat → Text → Bool → Cursor → Scan
  | 0, _, broken, c => ⟨[], broken, c⟩
  | n + 1, before, broken, c =>
    let k := if c.peek = some '#' then 0 else wordLength flow c.rest
    if k = 0 then ⟨[], broken, c⟩
    else
      let word := c.rest.take k
      let (between, broken, c) := gap (c.skip k)
      if between.isEmpty ∨ c.peek = some '#' ∨ (!flow ∧ (c.column : Int) < indent) then
        ⟨before ++ word, broken, c⟩
      else
        let s := words flow indent n between broken c
        { s with text := before ++ word ++ s.text }

/-- The plain scalar that stands here. -/
def read (flow : Bool) (indent : Int) (c : Cursor) : Scan :=
  words flow indent (c.rest.length + 1) [] false c

example : (read false 1 (Cursor.start "a b\n c # d".toList)).text = "a b c".toList := by
  decide +kernel
example : (read true 0 (Cursor.start "a b, c".toList)).text = "a b".toList := by decide +kernel

end Respell.Yaml.Plain
