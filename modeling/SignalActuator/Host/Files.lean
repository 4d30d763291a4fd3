/-
  Files — a tree of directories and files, and the operations on it.

  The tree is a list of entries by path, a path being the names from the root
  on; the root itself is always a directory.  Texts of paths are absolute or
  relative to a working directory.

  * `Files.read` and `Files.write` fail as an operating system does: on a name
    that is missing, on a file in the place of a directory, on a directory in
    the place of a file;
  * `Disk` is what a program may ask of files, with the state as a parameter,
    so that any pattern of failures is a disk.
-/
import SignalActuator.Host.Fault
import SignalActuator.Text.Utf8

namespace SignalActuator.Host

/-- The names from the root to an entry. -/
abbrev Path := List String

/-- The path below another one; an absolute path stands for itself. -/
def joinPath (base child : String) : String :=
  if child.toList.head? = some '/' ∨ base = "" then child
  else if base.toList.getLast? = some '/' then base ++ child
  else base ++ "/" ++ child

inductive Entry where
  | directory
  | file (contents : List UInt8)
  deriving DecidableEq, Repr

/-- A tree of files with a working directory. -/
structure Files where
  entries : List (Path × Entry) := []
  workingDirectory : Path := []
  deriving DecidableEq, Repr

namespace Files

def normalize (p : Path) : Path :=
  p.foldl (fun acc x => if x = "" ∨ x = "." then acc else if x = ".." then acc.dropLast
    else acc ++ [x]) []

def locate (fs : Files) (text : String) : Path :=
  let names := (text.toList.splitOn '/').map String.ofList
  normalize (if text.toList.head? = some '/' then names else fs.workingDirectory ++ names)

def entry? (fs : Files) (p : Path) : Option Entry :=
  if p = [] then some .directory
  else (fs.entries.find? fun e => e.1 == p).map (·.2)

/-- The longest name of an entry, in bytes. -/
def maxName : Nat := 255

/-- The fault on the way from a directory to the last name of a path. -/
def walk (fs : Files) (at_ : Path) : Path → Option Fault
  | [] => none
  | [x] => if maxName < (Utf8.encode x).length then some (.os 36) else none
  | x :: rest =>
    if maxName < (Utf8.encode x).length then some (.os 36)
    else match fs.entry? (at_ ++ [x]) with
      | none => some .notFound
      | some (.file _) => some .notADirectory
      | some .directory => walk fs (at_ ++ [x]) rest

/-- The path that a text denotes, if the way to it is free. -/
def resolve (fs : Files) (text : String) : Except Fault Path :=
  if text.toList.contains '\x00' then .error .nulInPath
  else if text = "" then .error .notFound
  else
    let p := fs.locate text
    match fs.walk [] p with
    | some fault => .error fault
    | none => .ok p

def has (fs : Files) (text : String) : Bool :=
  match fs.resolve text with
  | .ok p => (fs.entry? p).isSome
  | .error _ => false

def read (fs : Files) (text : String) : Except Fault (List UInt8) := do
  let p ← fs.resolve text
  match fs.entry? p with
  | none => .error .notFound
  | some .directory => .error .isADirectory
  | some (.file contents) => .ok contents

def readText (fs : Files) (text : String) : Except Fault String := do
  let contents ← fs.read text
  match Utf8.decode? contents with
  | some s => .ok s
  | none => .error .notUtf8

/-- The tree with an entry at a path, in the place of one that is there. -/
def put (fs : Files) (p : Path) (e : Entry) : Files :=
  if fs.entries.any (·.1 == p) then
    { fs with entries := fs.entries.map fun x => if x.1 == p then (p, e) else x }
  else { fs with entries := fs.entries ++ [(p, e)] }

/-- Replaces the contents of a file, which is created if it is missing. -/
def write (fs : Files) (text contents : String) : Except Fault Files := do
  let p ← fs.resolve text
  match fs.entry? p with
  | some .directory => .error .isADirectory
  | _ => .ok (fs.put p (.file (Utf8.encode contents)))

/-! ## Setting up -/

/-- The tree with a directory at a path and at every path on the way. -/
def makeDirectory (fs : Files) (p : Path) : Files :=
  (List.range p.length).foldl
    (fun fs i => let q := p.take (i + 1)
      if (fs.entry? q).isSome then fs else fs.put q .directory) fs

/-- The tree with a file at a path and directories on the way. -/
def makeFile (fs : Files) (p : Path) (contents : List UInt8) : Files :=
  (fs.makeDirectory p.dropLast).put p (.file contents)

def remove (fs : Files) (p : Path) : Files :=
  { fs with entries := fs.entries.filter fun e => !(p.isPrefixOf e.1) }

/-- The entries below a directory, by their paths from there. -/
def below (fs : Files) (p : Path) : List (Path × Entry) :=
  fs.entries.filterMap fun (q, e) =>
    if p.isPrefixOf q && q != p then some (q.drop p.length, e) else none

end Files

/-! ## Disks -/

/-- What a program may ask of files kept in a state `σ`. -/
structure Disk (σ : Type) where
  has : σ → String → Bool
  write : σ → (path contents : String) → Except Fault Unit × σ

def Files.disk : Disk Files where
  has := Files.has
  write fs path contents :=
    match fs.write path contents with
    | .ok fs => (.ok (), fs)
    | .error fault => (.error fault, fs)

end SignalActuator.Host
