import CommandPipeline.Platform.OsError
import CommandPipeline.Text.Octets

/-! A file system as a value: absolute paths with what stands there. Paths are resolved one name at
a time, so that the first name that cannot be entered decides the error. -/
namespace CommandPipeline.Platform

open Text (Octets)

/-- A file that is no storage. -/
inductive Device where
  /-- Swallows what is written, and holds nothing. -/
  | null
  /-- Never ends to give zeros. -/
  | zero
  /-- Has no space left. -/
  | full
  /-- The terminal, which nobody sits at. -/
  | terminal
  /-- An open descriptor of the program that opens it. -/
  | descriptor (number : Nat)
  deriving DecidableEq, Repr

/-- An absolute path: the names from the root down. -/
abbrev Path := List Octets

inductive Node where
  | directory
  | file (bytes : List UInt8) (executable : Bool)
  | link (target : Path)
  | device (d : Device)
  deriving Inhabited

structure Files where
  /-- The nodes below the root. The first one of a path counts. -/
  nodes : List (Path × Node) := []
  /-- When a path was last changed, counted in changes. -/
  changes : List (Path × Nat) := []
  /-- How many changes there have been. -/
  clock : Nat := 0

namespace Files

/-- The root is always a directory. -/
def node? (files : Files) : Path → Option Node
  | [] => some .directory
  | path => files.nodes.lookup path

def put (files : Files) (path : Path) (node : Node) : Files where
  nodes := (path, node) :: files.nodes.filter fun e => e.1 ≠ path
  changes := (path, files.clock + 1) :: files.changes.filter fun e => e.1 ≠ path
  clock := files.clock + 1

/-- When a path was last changed. -/
def changed (files : Files) (path : Path) : Nat := (files.changes.lookup path).getD 0

/-! ### Paths -/

/-- A link at the end of a path leads on to its target. -/
def follow (files : Files) (path : Path) : Path :=
  match files.node? path with
  | some (.link target) => target
  | _ => path

/-- Goes from a path to the one that the names lead to. The last one need not exist. -/
def walk (files : Files) : Path → List Octets → Except OsError Path
  | here, [] => .ok here
  | here, name :: rest =>
    let here := files.follow here
    match files.node? here with
    | none => .error .noEntry
    | some .directory =>
      if name = "" ∨ name = "." then walk files here rest
      else if name = ".." then walk files here.dropLast rest
      else if 255 < name.length then .error .nameTooLong
      else walk files (here ++ [name]) rest
    | some _ => .error .notDirectory

/-- The absolute path that a written path means in the directory `here`, without following a link at
its end. -/
def locate (files : Files) (here : Path) (path : Octets) : Except OsError Path :=
  if path = "" then .error .noEntry
  else if 4095 < path.length then .error .nameTooLong
  else files.walk (if path.startsWith "/" then [] else here) (path.splitOn "/")

/-- The absolute path that a written path means in the directory `here`. -/
def resolve (files : Files) (here : Path) (path : Octets) : Except OsError Path :=
  (files.locate here path).map files.follow

/-- What stands at a written path. -/
def find (files : Files) (here : Path) (path : Octets) : Except OsError Node := do
  match files.node? (← files.resolve here path) with
  | none => .error .noEntry
  | some node => .ok node

/-- What stands at a written path, if a link at its end is not followed. -/
def findLink (files : Files) (here : Path) (path : Octets) : Except OsError Node := do
  match files.node? (← files.locate here path) with
  | none => .error .noEntry
  | some node => .ok node

/-- The path without the slashes at its end. -/
def withoutSlashes (path : Octets) : Octets :=
  String.ofList (path.toList.reverse.dropWhile (· == '/')).reverse

/-- The path of a file that is opened for writing and need not exist. A path that ends in a slash
can only be that of a directory. -/
def writable (files : Files) (here : Path) (path : Octets) : Except OsError Path := do
  let kept := withoutSlashes path
  let place ← files.resolve here (if kept = "" then path else kept)
  if kept.length < path.length then .error .isDirectory
  else match files.node? place with
    | some .directory => .error .isDirectory
    | _ => .ok place

/-! ### Contents -/

/-- The bytes of the file at a written path. -/
def read (files : Files) (here : Path) (path : Octets) : Except OsError (List UInt8) := do
  match ← files.find here path with
  | .file bytes _ => .ok bytes
  | .directory => .error .isDirectory
  | _ => .ok []

/-- The path of the file that is opened for appending, which is created if nothing stands there. -/
def openAppend (files : Files) (here : Path) (path : Octets) : Except OsError (Path × Files) := do
  let place ← files.writable here path
  match files.node? place with
  | none => .ok (place, files.put place (.file [] false))
  | some _ => .ok (place, files)

/-- Adds bytes at the end of the file at `path`. -/
def append (files : Files) (path : Path) (bytes : List UInt8) : Files :=
  match files.node? path with
  | some (.file old executable) => files.put path (.file (old ++ bytes) executable)
  | _ => files

/-- Writes bytes from a position on, behind zeros if the file is shorter. -/
def overwrite (files : Files) (path : Path) (position : Nat) (bytes : List UInt8) : Files :=
  match files.node? path with
  | some (.file old executable) =>
    let kept := old.take position
    files.put path (.file (kept ++ List.replicate (position - kept.length) 0 ++ bytes ++
      old.drop (position + bytes.length)) executable)
  | _ => files

/-- The names directly inside a directory. -/
def children (files : Files) (path : Path) : List Octets :=
  files.nodes.filterMap fun e =>
    if e.1 ≠ [] ∧ e.1.dropLast = path then e.1.getLast? else none

end Files

/-! ### Files by their names -/

/-- Why a file cannot be read as text. -/
inductive FileError where
  | os (e : OsError)
  /-- The path holds the character NUL. -/
  | nulInName
  /-- The bytes are not UTF-8. -/
  | notText
  deriving DecidableEq, Repr

def FileError.message : FileError → String
  | .os e => e.message
  | .nulInName => "file name contained an unexpected NUL byte"
  | .notText => "stream did not contain valid UTF-8"

/-- The bytes of a path that a file can have. -/
def pathOctets (path : String) : Except FileError Octets :=
  if path.toList.contains (Char.ofNat 0) then .error .nulInName else .ok (Octets.ofText path)

def readText (files : Files) (here : Path) (path : String) : Except FileError String := do
  let bytes ← (files.read here (← pathOctets path)).mapError .os
  (Text.Utf8.decode bytes).mapError fun _ => .notText

/-- Opens a file for a log, which grows at its end. -/
def openLog (files : Files) (here : Path) (path : String) : Except FileError (Path × Files) := do
  (files.openAppend here (← pathOctets path)).mapError .os

end CommandPipeline.Platform
