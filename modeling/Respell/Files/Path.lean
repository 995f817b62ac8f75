/-
  Path names in normal form.

  A path name is a root and parts.  Empty parts and single dots are left out; two dots are kept,
  since what they mean hangs on the files.  Three or more slashes at the start are one root, two are
  a root of their own.  The empty path is written as a dot.

  A first part that begins with a tilde names a home directory: the user's own for a tilde alone,
  else the one of the account named behind it.  A home that is not known is an error.

  Folding a path takes two dots together with the part before them, whatever the files are.
-/
import Respell.Text
import Respell.Text.Quoted

namespace Respell

/-- A path name in normal form. -/
structure Path where
  root : String
  parts : List String
  deriving DecidableEq, Repr

/-- What the program knows of its surroundings, and what they leave to it. -/
structure Environment where
  /-- Variables. -/
  bindings : List (String × String)
  /-- The homes of named accounts. -/
  accounts : List (String × String)
  /-- How many texts of values can be made one inside another. -/
  room : Nat
  deriving DecidableEq, Repr

namespace Environment

/-- The value of a variable. -/
def get? (env : Environment) (name : String) : Option String := env.bindings.lookup name

end Environment

namespace Path

/-- The root that a path name begins with. -/
def rootOf (t : Text) : String :=
  match (t.takeWhile (· = '/')).length with
  | 0 => ""
  | 2 => "//"
  | _ => "/"

/-- The parts of a path name that count. -/
def partsOf (t : Text) : List String :=
  ((Text.split '/' t).filter fun p => p ≠ [] ∧ p ≠ ['.']).map String.ofList

/-- A path name in normal form. -/
def ofString (s : String) : Path := ⟨rootOf s.toList, partsOf s.toList⟩

/-- A path as it is written. -/
def toString (p : Path) : String :=
  match p.root ++ "/".intercalate p.parts with
  | "" => "."
  | s => s

example : (ofString "a//b/./c/").toString = "a/b/c" ∧ (ofString "").toString = "." := by decide
example : (ofString "///a").toString = "/a" ∧ (ofString "//a").toString = "//a" := by decide
example : (ofString "a/../b").toString = "a/../b" := by decide

/-- The directory that a path lies in; the root and the empty path lie in themselves. -/
def parent (p : Path) : Path := { p with parts := p.parts.dropLast }

/-- The home of the account named behind a tilde, or the user's own. -/
def homeOf (env : Environment) (name : String) : Option String :=
  if name = "" then env.get? "HOME" else env.accounts.lookup name

/-- The account whose home a path begins with, which is empty for the user's own. -/
def account? (p : Path) : Option Text :=
  match p.root, p.parts with
  | "", first :: _ =>
    match first.toList with
    | '~' :: name => some name
    | _ => none
  | _, _ => none

/-- A path with the tilde at its start resolved; `none` if the home is not known. -/
def expand (env : Environment) (p : Path) : Option Path :=
  match p.account? with
  | none => some p
  | some name =>
    match homeOf env (String.ofList name) with
    | none => none
    | some home =>
      if home.startsWith "~" then none
      else
        let h := ofString (if home.toList.all (· = '/') then "/" else home)
        some { h with parts := h.parts ++ p.parts.drop 1 }

/-- The folded parts, in reverse order, with one part more behind them.  Nothing is above a root,
and what is above the place where a path without one begins is not known. -/
def foldPart (root : String) (folded : List String) (part : String) : List String :=
  if part = ".." then
    match folded with
    | [] => if root = "" then [part] else []
    | last :: before => if last = ".." then part :: folded else before
  else part :: folded

/-- A path with two dots taken together with the part before them. -/
def folded (p : Path) : Path := { p with parts := (p.parts.foldl (foldPart p.root) []).reverse }

example : (ofString "a/../b/./c/..").folded.toString = "b" := by decide
example : (ofString "../a/../../b").folded.toString = "../../b" := by decide
example : (ofString "/../a").folded.toString = "/a" := by decide

end Path

end Respell
