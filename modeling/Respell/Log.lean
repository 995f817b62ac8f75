/-
  What the program notes about its work.

  A note has a level, the part of the program it comes from, and a message.  Notes are data: the
  operations that make them return them in order, and only the command line decides which levels
  are kept and where they go.
-/

namespace Respell

/-- How much a note matters, from the least to the most. -/
inductive Level where
  | debug
  | info
  | warning
  deriving DecidableEq, Repr

namespace Level

/-- The word for a level. -/
def word : Level → String
  | debug => "DEBUG"
  | info => "INFO"
  | warning => "WARNING"

/-- The place of a level in their order. -/
def rank : Level → Nat
  | debug => 0
  | info => 1
  | warning => 2

end Level

/-- A note: its level, the part of the program it is from, and what it says. -/
structure Note where
  level : Level
  source : String
  message : String
  deriving DecidableEq, Repr

namespace Note

/-- A note as a line, behind the time it was made. -/
def line (time : String) (n : Note) : String :=
  time ++ " " ++ n.level.word ++ " " ++ n.source ++ ": " ++ n.message ++ "\n"

/-- The notes of a level or above. -/
def atLeast (l : Level) (ns : List Note) : List Note := ns.filter fun n => l.rank ≤ n.level.rank

end Note

end Respell
