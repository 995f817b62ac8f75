/-
  The tokens of a text.

  1. **Indentation.**  Outside brackets, a dash, a question mark or a colon further to the right
     than what it stands in opens a block, and whatever begins further to the left closes one.
     Blocks have tokens for their start and end, so that the grammar above need not look at columns.

  2. **Keys.**  A scalar, an alias, a bracket, a tag or an anchor may turn out to be a key, if a
     colon follows on the same line and not too far away.  Where it begins is kept as a candidate,
     one for each level of brackets; when the colon is met the token for a key is put in front of
     it.  At the column of an open block a candidate has to become a key.

  3. **Faults.**  A fault is the last token.  It stands in front of the first candidate that was not
     yet settled when it was met, since no token goes out before it is known whether a key begins
     there.  So what is read before it is reached does not suffer, and a fault in the grammar in
     front of it comes first.

  Like all modules under `Respell.Yaml`, this one stands for a library (see `Respell.Yaml.Read`).
-/
import Respell.Yaml.Tag
import Respell.Yaml.Plain
import Respell.Yaml.Block

namespace Respell.Yaml

/-- A token. -/
inductive Token where
  | directive (d : Directive)
  | documentStart
  | documentEnd
  | blockSequence
  | blockMapping
  | blockEnd
  | openSequence
  | closeSequence
  | openMapping
  | closeMapping
  /-- A dash in front of a member. -/
  | member
  /-- A comma. -/
  | comma
  | key
  | value
  | alias (name : Text)
  | anchor (name : Text)
  | tag (name : TagName)
  | scalar (plain : Bool) (text : Text)
  | fault (e : YamlError)
  deriving DecidableEq, Repr

/-- The start of what may turn out to be a key. -/
structure Candidate where
  /-- The level of brackets. -/
  level : Nat
  /-- The number of tokens in front of it. -/
  position : Nat
  required : Bool
  index : Nat
  line : Nat
  column : Nat
  deriving DecidableEq, Repr

/-- A text of which some tokens are read. -/
structure Scanner where
  cursor : Cursor
  /-- The level of brackets. -/
  level : Nat
  /-- The column of the innermost block, below zero if there is none. -/
  indent : Int
  /-- The columns of the blocks around it, the innermost first. -/
  outer : List Int
  /-- Whether a key may begin here. -/
  keyAllowed : Bool
  candidates : List Candidate
  /-- The tokens, the newest first. -/
  tokens : List Token
  deriving DecidableEq, Repr

namespace Scanner

/-- The greatest distance between the start of a key and its colon. -/
def keyLimit : Nat := 1024

/-- A text of which nothing is read; a byte order mark at its start is left out. -/
def start (t : Text) : Scanner :=
  let c := Cursor.start t
  ⟨if c.peek = some '\ufeff' then c.next else c, 0, -1, [], true, [], []⟩

/-- The scanner with one more token. -/
def push (s : Scanner) (t : Token) : Scanner := { s with tokens := t :: s.tokens }

/-- The scanner behind some characters. -/
def forward (s : Scanner) (n : Nat) : Scanner := { s with cursor := s.cursor.skip n }

/-! ## Indentation -/

/-- The scanner with the blocks that begin to the right of a column closed; inside brackets there
are none.  -/
def unwind (s : Scanner) (column : Int) : Scanner :=
  if s.level ≠ 0 then s
  else
    let closed := (s.indent :: s.outer).takeWhile (column < ·)
    let left := (s.indent :: s.outer).dropWhile (column < ·)
    { s with
      indent := left.headD (-1), outer := left.drop 1
      tokens := List.replicate closed.length .blockEnd ++ s.tokens }

/-- The scanner with a block opened at a column, if it is to the right of the innermost one; its
token is put behind the first `position` tokens. -/
def openBlock (s : Scanner) (column position : Nat) (t : Token) : Scanner :=
  if s.level ≠ 0 ∨ (column : Int) ≤ s.indent then s
  else
    let after := s.tokens.length - position
    { s with
      indent := column, outer := s.indent :: s.outer
      tokens := s.tokens.take after ++ t :: s.tokens.drop after }

/-! ## Candidates for keys -/

/-- The scanner without the candidate of the present level; one that is required may not go. -/
def dropCandidate (s : Scanner) : Except YamlError Scanner :=
  if s.candidates.any fun k => k.level = s.level && k.required then .error .malformed
  else .ok { s with candidates := s.candidates.filter (·.level ≠ s.level) }

/-- Whether a candidate is on another line or too far away to become a key. -/
def isStale (s : Scanner) (k : Candidate) : Bool :=
  k.line ≠ s.cursor.line || keyLimit < s.cursor.index - k.index

/-- The scanner without candidates that can become a key no more. -/
def dropStale (s : Scanner) : Except YamlError Scanner :=
  if s.candidates.any fun k => s.isStale k && k.required then .error .malformed
  else .ok { s with candidates := s.candidates.filter (!s.isStale ·) }

/-- The scanner with what begins here as a candidate, if a key may begin here. -/
def saveCandidate (s : Scanner) : Except YamlError Scanner :=
  if s.keyAllowed then
    s.dropCandidate.map fun s =>
      let required := s.level = 0 && s.indent = s.cursor.column
      { s with candidates := ⟨s.level, s.tokens.length, required, s.cursor.index, s.cursor.line,
          s.cursor.column⟩ :: s.candidates }
  else .ok s

/-! ## Reading one token -/

/-- The start of the next token: spaces, comments and line breaks passed over.  A key may begin on
a new line outside brackets. -/
def skipToToken (block : Bool) : Nat → Bool → Cursor → Bool × Cursor
  | 0, allowed, c => (allowed, c)
  | n + 1, allowed, c =>
    let c := c.skipSpaces.skipComment
    match c.lineBreak? with
    | none => (allowed, c)
    | some (_, c) => skipToToken block n (allowed || block) c

/-- A directive or the mark of a document closes all blocks. -/
def atMargin (s : Scanner) : Except YamlError Scanner :=
  ((s.unwind (-1)).dropCandidate).map ({ · with keyAllowed := false })

/-- Reads a directive. -/
def readDirective (s : Scanner) : Except YamlError Scanner := do
  let s ← s.atMargin
  let (d, c) ← Directive.read s.cursor
  .ok { s with cursor := c, tokens := .directive d :: s.tokens }

/-- Reads the mark of a document. -/
def readMark (s : Scanner) (t : Token) : Except YamlError Scanner :=
  s.atMargin.map fun s => (s.forward 3).push t

/-- Reads an opening bracket. -/
def readOpen (s : Scanner) (t : Token) : Except YamlError Scanner :=
  s.saveCandidate.map fun s =>
    ({ s with level := s.level + 1, keyAllowed := true }.forward 1).push t

/-- Reads a closing bracket, of which there are no more than of opening ones. -/
def readClose (s : Scanner) (t : Token) : Except YamlError Scanner :=
  if s.level = 0 then .error .malformed
  else s.dropCandidate.map fun s =>
    ({ s with level := s.level - 1, keyAllowed := false }.forward 1).push t

/-- Reads a comma. -/
def readComma (s : Scanner) : Except YamlError Scanner :=
  s.dropCandidate.map fun s => ({ s with keyAllowed := true }.forward 1).push .comma

/-- Whether a block may begin here: inside brackets what is wrong with it is seen later. -/
def mayOpen (s : Scanner) : Bool := s.level ≠ 0 || s.keyAllowed

/-- Reads the dash in front of a member. -/
def readMember (s : Scanner) : Except YamlError Scanner :=
  if !s.mayOpen then .error .malformed
  else
    let s := s.openBlock s.cursor.column s.tokens.length .blockSequence
    ({ s with keyAllowed := true }.dropCandidate).map fun (s : Scanner) =>
      (s.forward 1).push .member

/-- Reads the question mark in front of a key. -/
def readKey (s : Scanner) : Except YamlError Scanner :=
  if !s.mayOpen then .error .malformed
  else
    let s := s.openBlock s.cursor.column s.tokens.length .blockMapping
    ({ s with keyAllowed := s.level = 0 }.dropCandidate).map fun (s : Scanner) =>
      (s.forward 1).push .key

/-- The tokens with the one for a key put in front of a candidate. -/
def withKey (s : Scanner) (k : Candidate) : Scanner :=
  let after := s.tokens.length - k.position
  { s with
    tokens := s.tokens.take after ++ Token.key :: s.tokens.drop after
    candidates := s.candidates.filter (·.level ≠ s.level), keyAllowed := false }

/-- Reads the colon in front of a value. -/
def readValue (s : Scanner) : Except YamlError Scanner :=
  match s.candidates.find? (·.level = s.level) with
  | some k =>
    let s := (s.withKey k).openBlock k.column k.position .blockMapping
    .ok ((s.forward 1).push .value)
  | none =>
    if !s.mayOpen then .error .malformed
    else
      let s := s.openBlock s.cursor.column s.tokens.length .blockMapping
      .ok (({ s with keyAllowed := s.level = 0 }.forward 1).push .value)

/-- Reads what may turn out to be a key: `read` gives its token and the cursor behind it. -/
def readCandidate (s : Scanner) (read : Cursor → Except YamlError (Token × Cursor)) :
    Except YamlError Scanner := do
  let s ← s.saveCandidate
  let (t, c) ← read s.cursor
  .ok { s with cursor := c, keyAllowed := false, tokens := t :: s.tokens }

/-- Reads a block scalar. -/
def readBlock (s : Scanner) (fold : Bool) : Except YamlError Scanner := do
  let s ← s.dropCandidate
  let (t, c) ← Block.read fold s.indent s.cursor
  .ok { s with cursor := c, keyAllowed := true, tokens := .scalar false t :: s.tokens }

/-- Reads a plain scalar. -/
def readPlain (s : Scanner) : Except YamlError Scanner :=
  s.saveCandidate.map fun s =>
    let p := Plain.read (s.level ≠ 0) (s.indent + 1) s.cursor
    { s with cursor := p.cursor, keyAllowed := p.broken, tokens := .scalar true p.text :: s.tokens }

/-- Whether a plain scalar can begin with a character, given the one behind it. -/
def startsPlain (flow : Bool) (x : Char) (y : Option Char) : Bool :=
  if isSpace x || isBreak x || "-?:,[]\x7b\x7d#&*!|>'\"%@\x60".toList.contains x then
    !isGap y && (x = '-' || (!flow && (x = '?' || x = ':')))
  else true

/-- Reads the token that begins with a character. -/
def readToken (s : Scanner) (x : Char) : Except YamlError Scanner :=
  let flow := s.level ≠ 0
  let margin := s.cursor.column = 0
  let y := s.cursor.peekAt 1
  if x = '%' ∧ margin then s.readDirective
  else if margin ∧ s.cursor.hasMark '-' then s.readMark .documentStart
  else if margin ∧ s.cursor.hasMark '.' then s.readMark .documentEnd
  else if x = '[' then s.readOpen .openSequence
  else if x = '\x7b' then s.readOpen .openMapping
  else if x = ']' then s.readClose .closeSequence
  else if x = '\x7d' then s.readClose .closeMapping
  else if x = ',' then s.readComma
  else if x = '-' ∧ isGap y then s.readMember
  else if x = '?' ∧ (flow ∨ isGap y) then s.readKey
  else if x = ':' ∧ (flow ∨ isGap y) then s.readValue
  else if x = '*' then s.readCandidate fun c => (readAnchor c).map fun r => (.alias r.1, r.2)
  else if x = '&' then s.readCandidate fun c => (readAnchor c).map fun r => (.anchor r.1, r.2)
  else if x = '!' then s.readCandidate fun c => (TagName.read c).map fun r => (.tag r.1, r.2)
  else if x = '|' ∧ !flow then s.readBlock false
  else if x = '>' ∧ !flow then s.readBlock true
  else if x = '\'' ∨ x = '"' then
    s.readCandidate fun c => (Quoted.read x c).map fun r => (.scalar false r.1, r.2)
  else if startsPlain flow x y then s.readPlain
  else .error .malformed

/-- Goes on to the next token, with the blocks closed that end in front of it. -/
def toNext (s : Scanner) : Except YamlError Scanner :=
  let (allowed, c) := skipToToken (s.level = 0) (s.cursor.rest.length + 1) s.keyAllowed s.cursor
  ({ s with cursor := c, keyAllowed := allowed }.dropStale).map fun (s : Scanner) =>
    s.unwind c.column

/-- The tokens that are settled: those in front of the first candidate that can still become a
key. -/
def settled (s : Scanner) : List Token :=
  let undecided := s.candidates.filter (!s.isStale ·)
  s.tokens.reverse.take ((undecided.map (·.position)).foldl min s.tokens.length)

/-- The tokens up to the end of the text, at most `n` of them, or to the first fault. -/
def finish : Nat → Scanner → List Token
  | 0, s => s.tokens.reverse
  | n + 1, s =>
    match s.toNext with
    | .error e => s.settled ++ [.fault e]
    | .ok next =>
      match next.cursor.peek with
      | none =>
        match (next.unwind (-1)).dropCandidate with
        | .error e => s.settled ++ [.fault e]
        | .ok last => last.tokens.reverse
      | some x =>
        match next.readToken x with
        | .error e => s.settled ++ [.fault e]
        | .ok s => finish n s

end Scanner

/-- The tokens of a text. -/
def Token.ofText (t : Text) : List Token :=
  if t.all isAllowed then Scanner.finish (t.length + 1) (Scanner.start t) else [.fault .malformed]

example : Token.ofText "a: [b]".toList =
    [.blockMapping, .key, .scalar true ['a'], .value, .openSequence, .scalar true ['b'],
     .closeSequence, .blockEnd] := by decide +kernel
example : Token.ofText "a: b: c".toList =
    [.blockMapping, .key, .scalar true ['a'], .value, .scalar true ['b'], .fault .malformed] := by
  decide +kernel

end Respell.Yaml
