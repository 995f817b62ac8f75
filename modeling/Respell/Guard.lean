/-
  The guard keeps a literal as it is when it follows one of certain keywords.

  It looks at the `window` characters in front of the literal and at nothing else.  It blocks the
  literal when those characters end in a keyword and then blanks only, and a word boundary lies in
  front of the keyword: one, but not both, of its first character and the character before it
  belongs to a word.  The start of the window counts as no word character.  Keywords are compared
  character by character, and an empty keyword is left out.
-/
import Respell.Text.Blank
import Respell.Text.Word
import Respell.Text.Quoted
import Respell.Log

namespace Respell

/-- Keywords after which a literal is kept, and how many characters are looked at. -/
structure Guard where
  keywords : List Text
  window : Int
  deriving DecidableEq, Repr

namespace Guard

/-- The keywords that are used when the user names none. -/
def defaultKeywords : List String := ["return", "case", "throw", "goto"]

/-- The number of characters that are looked at. -/
def defaultWindow : Int := 20

/-- A guard without empty keywords. -/
def make (keywords : List Text) (window : Int) : Guard :=
  ⟨keywords.filter (!·.isEmpty), window⟩

/-- The guard for keywords of the settings. -/
def ofKeywords (keywords : List String) : Guard := make (keywords.map (·.toList)) defaultWindow

/-- The guard that is used when no other is given. -/
def default : Guard := ofKeywords defaultKeywords

/-- Whether the character in front of a place, if any, belongs to a word. -/
def wordBefore : Option Char → Bool
  | none => false
  | some c => Text.isWord c

/-- Whether a keyword stands at the start of a text, with blanks only behind it. -/
def endsWith (t k : Text) : Bool := k.isPrefixOf t && (t.drop k.length).all Text.isBlank

example : endsWith ['g', 'o', ' '] ['g', 'o'] = true := by decide
example : endsWith ['g', 'o', 'x'] ['g', 'o'] = false := by decide

/-- The first keyword, from left to right, that ends a text after a word boundary; `prev` is the
character in front of the text. -/
def lastKeyword? (keywords : List Text) (prev : Option Char) : Text → Option Text
  | [] => none
  | c :: t =>
    match if wordBefore prev != Text.isWord c then keywords.find? (endsWith (c :: t)) else none with
    | some k => some k
    | none => lastKeyword? keywords (some c) t

/-- The characters in front of an offset that the guard looks at. -/
def look (g : Guard) (t : Text) (offset : Int) : Text := t.slice (max 0 (offset - g.window)) offset

/-- The keyword that keeps the literal at an offset as it is. -/
def blocking? (g : Guard) (t : Text) (offset : Int) : Option Text :=
  lastKeyword? g.keywords none (g.look t offset)

/-- Whether the literal at an offset may be respelled. -/
def allows (g : Guard) (t : Text) (offset : Int) : Bool := (g.blocking? t offset).isNone

example : default.allows "return 42;".toList 7 = false := by decide
example : default.allows "noreturn 5".toList 9 = true := by decide
example : (make [['=']] 20).allows "x= 5".toList 3 = false := by decide

/-- What is noted about a literal that a keyword keeps. -/
def note (offset : Nat) (keyword : Text) : Note :=
  ⟨.debug, "hexmate.core.guard", "Skipping literal at " ++ toString offset ++ " after " ++
    String.ofList (Text.quoted keyword)⟩

end Guard

end Respell
