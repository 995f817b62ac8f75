/-
  How a line is coloured.

  1. **Kinds.**  A lexer names the kind of each token by a path, from the general to the special.  A
     path has the category of its longest start that the table lists, and none is the plain one.

  2. **Categories of characters.**  Each character of a line has the category of the token that
     covers it, plain where the tokens have ended.  The characters of a literal are numbers,
     whatever the tokens say, so what is drawn as a number is what a respelling would change.

  3. **Segments** are the longest runs of characters of one category.  `flatten_runs` says that the
     line is the runs put together.
-/
import Respell.Literal

namespace Respell

/-- What a piece of a line is, as far as its colour goes. -/
inductive Category where
  | keyword
  | string
  | comment
  | function
  | type
  | number
  | operator
  | name
  | plain
  deriving DecidableEq, Repr, Inhabited

/-- The kind of a token: names from the general to the special. -/
abbrev Kind := List String

namespace Category

/-- The word for a category. -/
def word : Category → String
  | keyword => "keyword"
  | string => "string"
  | comment => "comment"
  | function => "function"
  | type => "class"
  | number => "number"
  | operator => "operator"
  | name => "variable"
  | plain => "default"

/-- The number of the colour in which a category is drawn. -/
def colour : Category → Nat
  | keyword => 11
  | string => 12
  | comment => 13
  | function => 14
  | type => 15
  | number => 16
  | operator => 17
  | name => 18
  | plain => 0

/-- The kinds with a category of their own. -/
def table : List (Kind × Category) :=
  [(["Keyword"], keyword), (["Name", "Class"], type), (["Name", "Function"], function),
   (["Name", "Decorator"], function), (["Name", "Variable"], name),
   (["Literal", "String"], string), (["Comment"], comment), (["Literal", "Number"], number),
   (["Operator"], operator), (["Text"], plain)]

/-- The category of a kind given from the special to the general. -/
def ofReversed : Kind → Category
  | [] => plain
  | n :: up => (table.lookup (n :: up).reverse).getD (ofReversed up)

/-- The category of a kind. -/
def ofKind (k : Kind) : Category := ofReversed k.reverse

example : ofKind ["Literal", "String", "Doc"] = string ∧ ofKind ["Name", "Tag"] = plain := by decide

end Category

namespace Highlight

/-- What makes tokens of a line. -/
abbrev Lexer := Text → List (Kind × Text)

/-- What stands in for a lexer where there is none. -/
def Lexer.none : Lexer := fun _ => []

/-- The category of each character that tokens cover. -/
def covered (tokens : List (Kind × Text)) : List Category :=
  tokens.flatMap fun t => List.replicate t.2.length (Category.ofKind t.1)

/-- The first `n` categories, with plain ones where there are fewer. -/
def fit : Nat → List Category → List Category
  | 0, _ => []
  | n + 1, [] => .plain :: fit n []
  | n + 1, c :: cs => c :: fit n cs

/-- The categories with those in the span of a literal made numbers. -/
def mark (cs : List Category) (l : Literal) : List Category :=
  cs.take l.start ++ List.replicate l.spelling.length .number ++ cs.drop l.stop

/-- The category of each character of a line. -/
def categories (tokens : List (Kind × Text)) (line : Text) : Except NumeralError (List Category) :=
  (Literal.scan line).map fun ls => ls.foldl mark (fit line.length (covered tokens))

/-- Characters with their categories as runs of one category. -/
def runs : List (Char × Category) → List (Text × Category)
  | [] => []
  | (x, k) :: rest =>
    match runs rest with
    | [] => [([x], k)]
    | (t, m) :: more => if k = m then (x :: t, m) :: more else ([x], k) :: (t, m) :: more

/-- The runs of some characters put together are the characters. -/
theorem flatten_runs (xs : List (Char × Category)) : (runs xs).flatMap (·.1) = xs.map (·.1) := by
  induction xs with
  | nil => rfl
  | cons x rest ih =>
    obtain ⟨x, k⟩ := x
    unfold runs
    split <;> rename_i h
    · rw [h] at ih
      simpa using ih
    · rw [h] at ih
      split <;> simp_all

/-- The segments of a line, given the tokens that its lexer makes of it. -/
def segments (tokens : List (Kind × Text)) (line : Text) :
    Except NumeralError (List (Text × Category)) :=
  (categories tokens line).map fun cs => runs (line.zip cs)

example : segments [(["Keyword"], ['i', 'f', ' ', '7'])] ['i', 'f', ' ', '7', ';'] =
    .ok [(['i', 'f', ' '], .keyword), (['7'], .number), ([';'], .plain)] := by decide +kernel

/-- The pieces of a line with their colours; an empty line is one empty piece. -/
def colours (tokens : List (Kind × Text)) (line : Text) : Except NumeralError (List (Text × Nat)) :=
  if line.isEmpty then .ok [([], Category.plain.colour)]
  else (segments tokens line).map fun ss => ss.map fun s => (s.1, s.2.colour)

end Highlight

end Respell
