/-
  Names that stand in front of nodes: tags, anchors and aliases; and the directives of a document.

  A tag is a handle and a suffix; the handle stands for a longer name that the directives of the
  document may set.  A tag in angle brackets, and the lone exclamation mark, have no handle.  Bytes
  of a suffix may be written with a percent sign and two hexadecimal digits.

  Like all modules under `Respell.Yaml`, this one stands for a library (see `Respell.Yaml.Read`).
-/
import Respell.Yaml.Cursor
import Respell.Yaml.Error
import Respell.Text.Utf8

namespace Respell.Yaml

/-- A tag as it is written. -/
structure TagName where
  handle : Option Text
  suffix : Text
  deriving DecidableEq, Repr

/-- A directive. -/
inductive Directive where
  | version (major : Nat)
  | tag (handle full : Text)
  /-- Any other directive; it means nothing. -/
  | reserved
  deriving DecidableEq, Repr

namespace TagName

/-- Whether a character may stand in a suffix, escapes apart. -/
def isSuffixChar (c : Char) : Bool := c.isAlphanum || "-;/?:@&=+$,_.!~*'()[]".toList.contains c

/-- The bytes that stand here as escapes, at most `n`. -/
def escapes : Nat → Cursor → Except YamlError (List UInt8 × Cursor)
  | 0, c => .ok ([], c)
  | n + 1, c =>
    match c.rest with
    | '%' :: a :: b :: _ =>
      match digitValue? a, digitValue? b with
      | some x, some y => (escapes n (c.skip 3)).map fun r => ((x * 16 + y).toUInt8 :: r.1, r.2)
      | _, _ => .error .malformed
    | '%' :: _ => .error .malformed
    | _ => .ok ([], c)

/-- The suffix that stands here, of at most `n` runs. -/
def suffixRuns : Nat → Cursor → Except YamlError (Text × Cursor)
  | 0, c => .ok ([], c)
  | n + 1, c =>
    let (run, c) := c.run isSuffixChar
    if c.peek = some '%' then
      match escapes c.rest.length c with
      | .error e => .error e
      | .ok (bytes, c) =>
        match Utf8.decode bytes with
        | .error _ => .error .malformed
        | .ok t => (suffixRuns n c).map fun r => (run ++ t ++ r.1, r.2)
    else .ok (run, c)

/-- The suffix that stands here; there has to be one. -/
def readSuffix (c : Cursor) : Except YamlError (Text × Cursor) :=
  match suffixRuns (c.rest.length + 1) c with
  | .error e => .error e
  | .ok (t, d) => if d.index = c.index then .error .malformed else .ok (t, d)

/-- The handle that stands here: an exclamation mark in front of a space, or a name between two. -/
def readHandle (c : Cursor) : Except YamlError (Text × Cursor) :=
  match c.peek with
  | some '!' =>
    if c.peekAt 1 = some ' ' then .ok (['!'], c.next)
    else
      let (name, d) := c.next.run isNameChar
      if d.peek = some '!' then .ok ('!' :: name ++ ['!'], d.next) else .error .malformed
  | _ => .error .malformed

/-- Whether another exclamation mark follows the first before a gap. -/
def hasHandle (c : Cursor) : Bool :=
  (c.next.rest.takeWhile fun x => !(x = ' ' || isBreak x)).contains '!'

/-- The tag that stands here, without a look at what follows it. -/
def readParts (c : Cursor) : Except YamlError (TagName × Cursor) :=
  if c.peekAt 1 = some '<' then do
    let (suffix, d) ← readSuffix (c.skip 2)
    if d.peek = some '>' then .ok (⟨none, suffix⟩, d.next) else .error .malformed
  else if isGap (c.peekAt 1) then .ok (⟨none, ['!']⟩, c.next)
  else do
    let (handle, d) ← if hasHandle c then readHandle c else .ok (['!'], c.next)
    let (suffix, d) ← readSuffix d
    .ok (⟨some handle, suffix⟩, d)

/-- The tag that stands here. -/
def read (c : Cursor) : Except YamlError (TagName × Cursor) :=
  match readParts c with
  | .error e => .error e
  | .ok r => if isSpaceOrEnd r.2.peek then .ok r else .error .malformed

example :
    (read (Cursor.start "!!str x".toList)).map (·.1) = .ok ⟨some ['!', '!'], ['s', 't', 'r']⟩ := by
  decide +kernel
example : (read (Cursor.start "!<a%21>".toList)).map (·.1) = .ok ⟨none, ['a', '!']⟩ := by
  decide +kernel

end TagName

/-- The name behind the sign of an anchor or alias. -/
def readAnchor (c : Cursor) : Except YamlError (Text × Cursor) :=
  let (name, d) := c.next.run isNameChar
  let ends := match d.peek with
    | none => true
    | some x => isSpace x || isBreak x || "?:,]\x7d%@\x60".toList.contains x
  if name.isEmpty ∨ !ends then .error .malformed else .ok (name, d)

namespace Directive

/-- The number that stands here; like any decimal number it has a limit. -/
def readNumber (c : Cursor) : Except YamlError (Nat × Cursor) :=
  let (ds, d) := c.run Char.isDigit
  if ds.isEmpty then .error .malformed
  else if digitLimit < ds.length then .error (.numeral (.tooLongToRead ds.length))
  else .ok (Numeral.valueOf .decimal ds, d)

/-- The version that stands here. -/
def readVersion (c : Cursor) : Except YamlError (Directive × Cursor) := do
  let (major, c) ← readNumber c.skipSpaces
  if c.peek ≠ some '.' then .error .malformed
  else do
    let (_, c) ← readNumber c.next
    if isSpaceOrEnd c.peek then .ok (version major, c) else .error .malformed

/-- The handle and the name it stands for, which stand here. -/
def readTag (c : Cursor) : Except YamlError (Directive × Cursor) := do
  let (handle, c) ← TagName.readHandle c.skipSpaces
  if c.peek ≠ some ' ' then .error .malformed
  else do
    let (full, c) ← TagName.readSuffix c.skipSpaces
    if isSpaceOrEnd c.peek then .ok (tag handle full, c) else .error .malformed

/-- The directive that stands here, without the rest of its line. -/
def readParts (c : Cursor) : Except YamlError (Directive × Cursor) :=
  let (name, c) := c.next.run isNameChar
  if name.isEmpty ∨ !isSpaceOrEnd c.peek then .error .malformed
  else if name = "YAML".toList then readVersion c
  else if name = "TAG".toList then readTag c
  else .ok (reserved, (c.run (!isBreak ·)).2)

/-- The directive that stands here, up to the next line; only a comment may follow it. -/
def read (c : Cursor) : Except YamlError (Directive × Cursor) :=
  match readParts c with
  | .error e => .error e
  | .ok (d, c) =>
    let c := c.skipSpaces.skipComment
    if isLineEnd c.peek then .ok (d, c.next) else .error .malformed

end Directive

end Respell.Yaml
