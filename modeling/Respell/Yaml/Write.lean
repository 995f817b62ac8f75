/-
  Values as they are written.

  1. **Shape.**  What is written is a tree of texts, truth values, lists and mappings.  A mapping
     has a line for each key, and what is in it stands two columns further in.  The members of a
     list stand under the key, behind dashes.  An empty collection is written in brackets.  A key
     that is empty, long or has several lines stands behind a question mark, and its value behind a
     colon in a line of its own.

  2. **Quotes.**  A text is plain if it is read back as a text and nothing in it could be taken for
     a mark.  Otherwise it stands between single quotes, or between double ones if it holds a
     character that is no printable ASCII, or a space beside a line break.

  3. **Width.**  A text that is not a key of one line is broken at a single space, or between double
     quotes also behind an escape, once it has gone past the width; what follows is indented.

  Like all modules under `Respell.Yaml`, this one stands for a library (see `Respell.Yaml.Read`).
-/
import Respell.Yaml.Implicit
import Respell.Yaml.Cursor
import Respell.Numeral

namespace Respell.Yaml

/-- What can be written. -/
inductive Tree where
  | text (t : Text)
  | bool (b : Bool)
  | list (ts : List Tree)
  | mapping (es : List (Text × Tree))

/-! ## The page -/

/-- What is written, in reverse, and where the next character will stand. -/
structure Page where
  written : Text
  column : Nat
  /-- A space or a new line was written last. -/
  spaced : Bool
  /-- Nothing but indentation and marks stands in the line. -/
  indented : Bool
  deriving DecidableEq, Repr

namespace Page

/-- The greatest number of columns that is not yet too many. -/
def width : Nat := 80

/-- An empty page. -/
def blank : Page := ⟨[], 0, true, true⟩

/-- The page with some text. -/
def put (p : Page) (t : Text) : Page :=
  { p with written := t.reverse ++ p.written, column := p.column + t.length }

/-- The page with a new line. -/
def newLine (p : Page) : Page := ⟨'\n' :: p.written, 0, true, true⟩

/-- The page with spaces up to a column. -/
def padTo (p : Page) (indent : Nat) : Page :=
  if p.column < indent then
    { p.put (List.replicate (indent - p.column) ' ') with spaced := true }
  else p

/-- The page with a place at a column where something can begin, in a new line if need be. -/
def beginAt (p : Page) (indent : Nat) : Page :=
  if !p.indented ∨ indent < p.column ∨ (p.column = indent ∧ !p.spaced) then
    p.newLine.padTo indent
  else p.padTo indent

/-- The page with a mark; `apart` puts a space in front, `keep` says that indentation goes on. -/
def mark (p : Page) (t : Text) (apart keep : Bool) : Page :=
  { p.put (if apart && !p.spaced then ' ' :: t else t) with
    spaced := false, indented := p.indented && keep }

/-- The page within a scalar, where nothing is indentation. -/
def inside (p : Page) : Page := { p with spaced := false, indented := false }

end Page

/-! ## Styles -/

/-- How a text is written. -/
inductive Style where
  | plain
  | single
  | double
  deriving DecidableEq, Repr

namespace Style

/-- Whether a character can stand outside double quotes. -/
def isOrdinary (c : Char) : Bool := c = '\n' || (' ' ≤ c && c ≤ '~')

/-- Whether a text begins or ends with a space or a newline. -/
def hasOpenEnd (t : Text) : Bool :=
  [t.head?, t.getLast?].any fun x => x = some ' ' || x = some '\n'

/-- Whether a space stands beside a newline. -/
def hasSpacedBreak : Text → Bool
  | ' ' :: '\n' :: _ => true
  | '\n' :: ' ' :: _ => true
  | _ :: t => hasSpacedBreak t
  | [] => false

/-- Whether a text begins with what could be taken for a mark. -/
def startsWithMark (t : Text) : Bool :=
  match t with
  | [] => false
  | c :: r =>
    "---".toList.isPrefixOf t || "...".toList.isPrefixOf t ||
      "#,[]\x7b\x7d&*!|>'\"%@\x60".toList.contains c || ("?:-".toList.contains c && isGap r.head?)

/-- Whether a colon before a gap or a number sign behind one stands in a text; `c` is in front. -/
def holdsMark (c : Char) : Text → Bool
  | [] => false
  | d :: r =>
    (d = ':' && isGap r.head?) || (d = '#' && isGap (some c)) || holdsMark d r

/-- Whether anything in a text could be taken for a mark. -/
def hasMark (t : Text) : Bool :=
  startsWithMark t ||
    match t with
    | [] => false
    | c :: r => holdsMark c r

/-- Whether a text can be written as it is. -/
def allowsPlain (t : Text) : Bool :=
  Implicit.tagOf t = .text && t.all (fun c => isOrdinary c && c ≠ '\n') && !hasOpenEnd t &&
    !hasMark t

/-- The style of a text. -/
def ofText (t : Text) : Style :=
  if allowsPlain t then plain
  else if t.all isOrdinary && !hasSpacedBreak t then single
  else double

example : ofText "a b".toList = plain ∧ ofText "yes".toList = single ∧ ofText [] = single := by
  decide +kernel
example : ofText "a: b".toList = single ∧ ofText "é".toList = double := by decide +kernel

end Style

/-! ## Scalars -/

/-- The upper-case hexadecimal digits of a number, `n` of them. -/
def upperHex (n v : Nat) : Text := Text.padLeft n '0' (Numeral.digitsText 16 v)

/-- The letters of the escapes that have one. -/
def escapeLetters : List (Char × Char) :=
  [('\x00', '0'), ('\x07', 'a'), ('\x08', 'b'), ('\t', 't'), ('\n', 'n'), ('\x0b', 'v'),
   ('\x0c', 'f'), ('\x0d', 'r'), ('\x1b', 'e'), ('"', '"'), ('\\', '\\'), ('\x85', 'N'),
   ('\xa0', '_'), ('\u2028', 'L'), ('\u2029', 'P')]

/-- A character as an escape. -/
def escapeText (c : Char) : Text :=
  match escapeLetters.lookup c with
  | some l => ['\\', l]
  | none =>
    let v := c.toNat
    if v ≤ 0xFF then '\\' :: 'x' :: upperHex 2 v
    else if v ≤ 0xFFFF then '\\' :: 'u' :: upperHex 4 v
    else '\\' :: 'U' :: upperHex 8 v

/-- Whether a character between double quotes has to be an escape. -/
def needsEscape (c : Char) : Bool := c = '"' || c = '\\' || !(' ' ≤ c && c ≤ '~')

namespace Page

/-- The page broken between double quotes; a space that comes next is kept by a backslash. -/
def breakDouble (p : Page) (indent : Nat) (next : Option Char) : Page :=
  let p := ((p.put ['\\']).beginAt indent).inside
  if next = some ' ' then p.put ['\\'] else p

/-- The page with a text between double quotes; `pending` is in front of it and not yet written. -/
def putDouble (split : Bool) (indent : Nat) (first : Bool) (pending : Text) : Text → Page → Page
  | [], p => p.put pending
  | c :: t, p =>
    let inner := split && !first && !t.isEmpty
    if needsEscape c then
      let p := (p.put pending).put (escapeText c)
      let p := if inner && width + 1 < p.column then p.breakDouble indent t.head? else p
      putDouble split indent false [] t p
    else if inner && (c = ' ' || pending.isEmpty) && width < p.column + pending.length then
      putDouble split indent false [c] t ((p.put pending).breakDouble indent (some c))
    else putDouble split indent false (pending ++ [c]) t p

/-- What kind of character one is: a space, a newline or any other. -/
def charKind (c : Char) : Nat := if c = ' ' then 0 else if c = '\n' then 1 else 2

/-- The page with the runs of a text that is plain or between single quotes; `edge` says that what
comes next is the first. -/
def putRuns (split : Bool) (indent : Nat) (edge : Bool) : List Text → Page → Page
  | [], p => p
  | run :: runs, p =>
    let p :=
      match run with
      | ' ' :: _ =>
        if run.length = 1 ∧ width < p.column ∧ split ∧ !edge ∧ !runs.isEmpty then
          p.beginAt indent
        else p.put run
      | '\n' :: _ => ((run.foldl (fun p _ => p.newLine) p.newLine).beginAt indent)
      | _ => (p.put run).inside
    putRuns split indent false runs p

/-- A text with every single quote written twice. -/
def doubled (t : Text) : Text := t.flatMap fun c => if c = '\'' then [c, c] else [c]

/-- The page with a text in a style; `split` says that it may be broken. -/
def putText (split : Bool) (indent : Nat) (t : Text) (p : Page) : Page :=
  match Style.ofText t with
  | .plain =>
    let p := if p.spaced then p else p.put [' ']
    (putRuns split indent true (t.splitBy fun a b => charKind a = charKind b) p).inside
  | .single =>
    let runs := t.splitBy fun a b => charKind a = charKind b
    let p := putRuns split indent true (runs.map doubled) (p.mark ['\''] true false)
    p.mark ['\''] false false
  | .double =>
    (putDouble split indent true [] t (p.mark ['"'] true false)).mark ['"'] false false

end Page

/-- The page with a word that needs no quotes. -/
def Page.putWord (w : String) (p : Page) : Page :=
  ((if p.spaced then p else p.put [' ']).put w.toList).inside

/-! ## Collections -/

/-- The length from which on a key stands behind a question mark, that of its type included. -/
def keyWidth : Nat := 128

/-- Whether a key can stand in front of its colon; one with a line break of any kind cannot. -/
def isSimpleKey (t : Text) : Bool := !t.isEmpty && !t.any isBreak && t.length + 5 < keyWidth

/-- The page with a key that begins at a column, and its colon. -/
def Page.putKey (indent : Nat) (k : Text) (p : Page) : Page :=
  let p := p.beginAt indent
  if isSimpleKey k then (p.putText false (indent + 2) k).mark [':'] false false
  else
    let p := (p.mark ['?'] true true).putText true (indent + 2) k
    (p.beginAt indent).mark [':'] true true

mutual

/-- The page with a tree in a collection at a column; `loose` puts a list at that column itself. -/
def writeTree (indent : Nat) (loose : Bool) : Tree → Page → Page
  | .text t, p => p.putText true (indent + 2) t
  | .bool b, p => p.putWord (if b then "true" else "false")
  | .list [], p => p.mark ['[', ']'] true false
  | .list (t :: ts), p =>
    writeMembers (if loose && !p.indented then indent else indent + 2) (t :: ts) p
  | .mapping [], p => p.mark ['\x7b', '\x7d'] true false
  | .mapping (e :: es), p => writeEntries (indent + 2) (e :: es) p

/-- The page with the members of a list at a column. -/
def writeMembers (indent : Nat) : List Tree → Page → Page
  | [], p => p
  | t :: ts, p =>
    writeMembers indent ts (writeTree indent false t ((p.beginAt indent).mark ['-'] true true))

/-- The page with the entries of a mapping at a column. -/
def writeEntries (indent : Nat) : List (Text × Tree) → Page → Page
  | [], p => p
  | (k, t) :: es, p => writeEntries indent es (writeTree indent true t (p.putKey indent k))

end

/-- The text of a mapping with at least one entry. -/
def write (es : List (Text × Tree)) : Text :=
  ((writeEntries 0 es Page.blank).beginAt 0).written.reverse

example : write [(['a'], .list [.text ['b'], .bool true]), (['c'], .mapping [])] =
    "a:\n- b\n- true\nc: \x7b\x7d\n".toList := by decide +kernel
example : write [([], .mapping [(['1'], .text ['x'])])] =
    "? ''\n: '1': x\n".toList := by decide +kernel

end Respell.Yaml
