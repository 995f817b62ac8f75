/-
  Which language a document is written in.

  1. **The name** decides first: each language has endings of file names, compared with the last
     part of the name, upper and lower case told apart.

  2. **The content** decides if the name does not.  A language is known by the ways in which a line
     of it can open, behind blanks, which may run over several lines.  An opening is a list of
     parts, each of which takes from the text as much as it can; no part can begin with what the
     one before it takes, so nothing is gained by taking less.  The first language with an opening
     anywhere wins.  C comes last; it gives way to C++ if an opening of that occurs as well.

  The endings are some of those for which Pygments has a lexer, a library that is no part of the
  program.  Here a name with another ending of that library is one that decides nothing.
-/
import Respell.Text.Blank
import Respell.Text.Word

namespace Respell

/-- A language that documents are written in. -/
inductive Language where
  | bash
  | c
  | cpp
  | java
  | javascript
  | json
  | markdown
  | plain
  | python
  | rust
  | yaml
  deriving DecidableEq, Repr

namespace Language

/-- The name of a language on the screen. -/
def name : Language → String
  | bash => "Bash"
  | c => "C"
  | cpp => "C++"
  | java => "Java"
  | javascript => "JavaScript"
  | json => "JSON"
  | markdown => "Markdown"
  | plain => "Text only"
  | python => "Python"
  | rust => "Rust"
  | yaml => "YAML"

/-! ## By name -/

/-- The endings of file names, with their languages. -/
def endings : List (String × Language) :=
  [(".c", c), (".C", cpp), (".cpp", cpp), (".java", java), (".js", javascript), (".json", json),
   (".md", markdown), (".py", python), (".rs", rust), (".sh", bash), (".txt", plain),
   (".yaml", yaml)]

/-- The language of a file name. -/
def ofName? (file : Text) : Option Language :=
  (endings.find? fun e => e.1.toList.isSuffixOf (Text.lastPart '/' file)).map (·.2)

example : ofName? "src/main.c".toList = some .c ∧ ofName? "a.C".toList = some .cpp := by decide
example : ofName? "a.py/notes".toList = none ∧ ofName? ".py".toList = some .python := by decide

/-! ## By content -/

/-- A part of an opening. -/
inductive Part where
  /-- A fixed text. -/
  | word (t : String)
  /-- A quote, single or double. -/
  | quote
  /-- Any number of blanks. -/
  | gap
  /-- One blank or more. -/
  | space
  /-- One word character or more. -/
  | name
  deriving DecidableEq, Repr

namespace Part

/-- What is left of a text when a part is taken off its start; `none` if it does not start so. -/
def rest? (t : Text) : Part → Option Text
  | word w => if w.toList.isPrefixOf t then some (t.drop w.length) else none
  | quote =>
    match t with
    | '\'' :: r => some r
    | '"' :: r => some r
    | _ => none
  | gap => some (Text.dropBlank t)
  | space => if (t.takeWhile Text.isBlank).isEmpty then none else some (Text.dropBlank t)
  | name => if (t.takeWhile Text.isWord).isEmpty then none else some (t.dropWhile Text.isWord)

end Part

/-- Whether a text starts with the parts of an opening. -/
def opensWith (t : Text) : List Part → Bool
  | [] => true
  | p :: ps =>
    match p.rest? t with
    | none => false
    | some r => opensWith r ps

example : opensWith "fn  main()".toList [.word "fn", .space, .name] = true := by decide
example : opensWith "fn(".toList [.word "fn", .space, .name] = false := by decide

/-- The ends of a text that stand behind its newlines, from left to right. -/
def laterLines : Text → List Text
  | [] => []
  | x :: t => if x = '\n' then t :: laterLines t else laterLines t

/-- Whether a line of a text starts, behind blanks, with one of some openings. -/
def hasOpening (t : Text) (os : List (List Part)) : Bool :=
  (t :: laterLines t).any fun l => os.any (opensWith (Text.dropBlank l))

/-- The languages other than C and C++ that content shows, in the order they are tried. -/
def openings : List (Language × List (List Part)) :=
  [(python, [[.word "def"], [.word "class"], [.word "import"], [.word "from"],
      [.word "if __name__ == ", .quote, .word "__main__", .quote]]),
   (javascript, [[.word "function"], [.word "const"], [.word "let"], [.word "var"],
      [.word "document."], [.word "window."], [.word "=>"]]),
   (bash, [[.word "#!", .gap, .word "/bin/bash"]]),
   (rust, [[.word "fn", .space, .name], [.word "pub", .space, .word "struct"],
      [.word "use", .space, .word "std"]])]

/-- The openings of C. -/
def cOpenings : List (List Part) :=
  [[.word "#include"], [.word "int", .space, .word "main"], [.word "void", .space, .word "main"],
   [.word "struct", .space, .name, .gap, .word "\x7b"]]

/-- The openings that C++ has beside those of C. -/
def cppOpenings : List (List Part) :=
  [[.word "class", .space, .name], [.word "namespace", .space, .name],
   [.word "template", .gap, .word "<"]]

/-- The language that the content of a document shows. -/
def ofContent? (t : Text) : Option Language :=
  match openings.find? fun o => hasOpening t o.2 with
  | some o => some o.1
  | none =>
    if hasOpening t cOpenings then some (if hasOpening t cppOpenings then cpp else c) else none

example : ofContent? "x\n  \n  import os".toList = some .python := by decide
example : ofContent? "int main\nnamespace a".toList = some .cpp := by decide
example : ofContent? "the int main".toList = none := by decide

/-- The language of a document by its name, or else by its content. -/
def detect (file content : Text) : Option Language :=
  match ofName? file with
  | some l => some l
  | none => ofContent? content

end Language

end Respell
