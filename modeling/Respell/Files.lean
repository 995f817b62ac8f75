/-
  The files that the program reads and writes, as a tree.

  1. **The tree** maps places to entries.  A place is a list of names from the working directory, or
     from the root directory if the first name is a slash.  These two directories, and those that
     the working directory lies in, are always there.  An entry is a directory or a file with its
     bytes.

  2. **Resolving** a path name walks its parts.  Every part but the last has to be a directory; two
     dots go back one place.  A slash or a dot at the end asks for a directory.

  3. **Writing** makes a file where there is nothing.  A name with a slash at its end is refused as
     a directory before it is looked up, so it need not lead anywhere; a dot at the end is looked up
     first.

  4. **Errors** carry their number, their words and the path as it was given.  A name with a null
     character in it never reaches the system, and the error has words alone.

  The tree knows of no permissions, full disks or changes by others: every file in it may be read and
  written.
-/
import Respell.Files.Path
import Respell.Text.Utf8

namespace Respell

/-- Why a file operation fails.  There is no cause for a file that may not be read or written. -/
inductive FileCause where
  | missing
  | occupied
  | notDirectory
  | isDirectory
  | nameTooLong
  /-- There is a null character in the name. -/
  | nullInName
  deriving DecidableEq, Repr

/-- A file operation that fails, and the path it was given. -/
structure FileError where
  cause : FileCause
  path : String
  deriving DecidableEq, Repr

namespace FileCause

/-- The number that the system gives a cause, if it is one of the system's. -/
def number? : FileCause → Option Nat
  | missing => some 2
  | occupied => some 17
  | notDirectory => some 20
  | isDirectory => some 21
  | nameTooLong => some 36
  | nullInName => none

/-- The words for a cause. -/
def words : FileCause → String
  | missing => "No such file or directory"
  | occupied => "File exists"
  | notDirectory => "Not a directory"
  | isDirectory => "Is a directory"
  | nameTooLong => "File name too long"
  | nullInName => "embedded null byte"

end FileCause

namespace FileError

/-- What is said about a file operation that fails. -/
def message (e : FileError) : String :=
  match e.cause.number? with
  | some n => "[Errno " ++ toString n ++ "] " ++ e.cause.words ++ ": " ++ quote e.path
  | none => e.cause.words

/-- Whether an error is one of the system's. -/
def isOfSystem (e : FileError) : Bool := e.cause.number?.isSome

end FileError

/-- A place in the tree: the names that lead to it. -/
abbrev Place := List String

/-- What is at a place. -/
inductive Entry where
  | directory
  | file (bytes : List UInt8)
  deriving DecidableEq, Repr

/-- A tree of files. -/
structure Files where
  entries : List (Place × Entry)
  deriving DecidableEq, Repr

namespace Files

/-- The tree with nothing in its working directory. -/
def empty : Files := ⟨[]⟩

/-- Whether a place is the working directory or one that it lies in. -/
def isAbove (p : Place) : Bool := p.all (· = "..")

/-- What is at a place, if anything. -/
def entry? (fs : Files) (p : Place) : Option Entry :=
  if isAbove p ∨ p = ["/"] then some .directory else fs.entries.lookup p

/-- The tree with an entry put at a place. -/
def put (fs : Files) (p : Place) (e : Entry) : Files :=
  ⟨if fs.entries.any (·.1 = p) then fs.entries.map fun x => if x.1 = p then (p, e) else x
    else fs.entries ++ [(p, e)]⟩

/-! ## Resolving path names -/

/-- The number of bytes of a name. -/
def sizeOf (name : String) : Nat := (Utf8.encode name.toList).length

/-- The greatest number of bytes in one name. -/
def nameLimit : Nat := 255

/-- The greatest number of bytes in a whole path name. -/
def pathLimit : Nat := 4095

/-- The place one name further on, which need not exist. -/
def stepTo (p : Place) (name : String) : Place :=
  if name = ".." then (if p = ["/"] then p else if isAbove p then p ++ [name] else p.dropLast)
  else p ++ [name]

/-- A place where a directory has to be. -/
def enter (fs : Files) (p : Place) : Except FileCause Place :=
  match fs.entry? p with
  | none => .error .missing
  | some (.file _) => .error .notDirectory
  | some .directory => .ok p

/-- The place that some names lead to from a directory. -/
def walk (fs : Files) (p : Place) : List String → Except FileCause Place
  | [] => .ok p
  | name :: rest =>
    match fs.enter p with
    | .error c => .error c
    | .ok p =>
      if nameLimit < sizeOf name then .error .nameTooLong else walk fs (stepTo p name) rest

/-- Why a path name is not looked up at all, if it is not. -/
def refusal? (path : String) : Option FileCause :=
  if path.toList.contains '\x00' then some .nullInName
  else if path = "" then some .missing
  else if pathLimit < sizeOf path then some .nameTooLong
  else none

/-- The place that the first of a path name's parts lead to, all but the last `n`. -/
def placeBut (fs : Files) (n : Nat) (path : String) : Except FileCause Place :=
  let p := Path.ofString path
  match refusal? path with
  | some c => .error c
  | none => walk fs (if p.root = "" then [] else ["/"]) (p.parts.take (p.parts.length - n))

/-- The place that a path name leads to. -/
def place (fs : Files) (path : String) : Except FileCause Place := fs.placeBut 0 path

/-- How a path name ends. -/
inductive PathEnd where
  | name
  | slash
  | dot
  deriving DecidableEq, Repr

/-- The end of a path name; slashes behind a dot do not count. -/
def endOf (path : String) : PathEnd :=
  let parts := (Text.split '/' path.toList).reverse
  if (parts.dropWhile (· = [])).head? = some ['.'] then .dot
  else if parts.head? = some [] then .slash
  else .name

example : endOf "a/b" = .name ∧ endOf "a//" = .slash ∧ endOf "a/.//" = .dot := by decide

/-- What a path name leads to. -/
def find (fs : Files) (path : String) : Except FileCause Entry :=
  match fs.place path with
  | .error c => .error c
  | .ok p =>
    match fs.entry? p with
    | none => .error .missing
    | some .directory => .ok .directory
    | some (.file bytes) =>
      if endOf path = .name then .ok (.file bytes) else .error .notDirectory

/-- Whether a path name leads to anything. -/
def doesExist (fs : Files) (path : String) : Bool :=
  match fs.find path with
  | .ok _ => true
  | .error _ => false

/-! ## Reading and writing -/

/-- The bytes of a file. -/
def read (fs : Files) (path : String) : Except FileError (List UInt8) :=
  match fs.find path with
  | .ok (.file bytes) => .ok bytes
  | .ok .directory => .error ⟨.isDirectory, path⟩
  | .error c => .error ⟨c, path⟩

/-- The place where a file is written. -/
def target (fs : Files) (path : String) : Except FileCause Place :=
  match endOf path with
  | .name =>
    (fs.place path).bind fun p =>
      if fs.entry? p = some .directory then .error .isDirectory else .ok p
  | .slash => ((fs.placeBut 1 path).bind fs.enter).bind fun _ => .error .isDirectory
  | .dot => ((fs.place path).bind fs.enter).bind fun _ => .error .isDirectory

/-- The tree after a file has been written, made if it was not there. -/
def write (fs : Files) (path : String) (bytes : List UInt8) : Except FileError Files :=
  match fs.target path with
  | .error c => .error ⟨c, path⟩
  | .ok p => .ok (fs.put p (.file bytes))

/-- The tree after bytes have been put at the end of a file, made if it was not there. -/
def append (fs : Files) (path : String) (bytes : List UInt8) : Except FileError Files :=
  match fs.find path with
  | .ok (.file old) => fs.write path (old ++ bytes)
  | _ => fs.write path bytes

/-- The tree after one directory has been made. -/
def makeDirectory (fs : Files) (path : Path) : Except FileError Files :=
  match fs.place path.toString with
  | .error c => .error ⟨c, path.toString⟩
  | .ok p =>
    match fs.entry? p with
    | some _ => .error ⟨.occupied, path.toString⟩
    | none => .ok (fs.put p .directory)

/-- Whether a path leads to a directory. -/
def isDirectory (fs : Files) (path : Path) : Bool :=
  match fs.find path.toString with
  | .ok .directory => true
  | _ => false

/-- The tree after a directory has been made unless it is there. -/
def ensureDirectory (fs : Files) (path : Path) : Except FileError Files :=
  match fs.makeDirectory path with
  | .ok fs' => .ok fs'
  | .error e => if e.cause ≠ .missing ∧ fs.isDirectory path then .ok fs else .error e

/-- The tree after the directory with the first names of `parts`, in reverse order, and all that it
lies in have been made. -/
def ensureParents (fs : Files) (root : String) : List String → Except FileError Files
  | [] => fs.ensureDirectory ⟨root, []⟩
  | name :: rest =>
    let path : Path := ⟨root, (name :: rest).reverse⟩
    match fs.ensureDirectory path with
    | .ok fs' => .ok fs'
    | .error e =>
      if e.cause = .missing then (ensureParents fs root rest).bind (·.ensureDirectory path)
      else .error e

/-- The tree after a directory and all that it lies in have been made unless they are there. -/
def makeDirectories (fs : Files) (path : Path) : Except FileError Files :=
  fs.ensureParents path.root path.parts.reverse

example : ((empty.write "f" [1]).bind (·.read "./f")) = .ok [1] := by decide
example : empty.write "d/f" [1] = .error ⟨.missing, "d/f"⟩ := by decide
example : empty.write "d/" [1] = .error ⟨.isDirectory, "d/"⟩ := by decide
example : empty.write "d/." [1] = .error ⟨.missing, "d/."⟩ := by decide
example : ((empty.makeDirectories ⟨"", ["a", "b"]⟩).bind (·.write "a/b/f" [])).isOk = true := by
  decide

end Files

end Respell
