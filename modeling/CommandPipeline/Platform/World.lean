import CommandPipeline.Command.Completion
import CommandPipeline.Platform.Files

/-! The world that programs run in. All of them share the files and what flows between them; each one
has descriptors, a working directory and an environment of its own. -/
namespace CommandPipeline.Platform

open Text (Octets)

/-! ### Streams -/

/-- What can be read from or written to. -/
inductive Channel where
  | file (path : Path) (position : Nat) (appending : Bool)
  | directory
  | pipe (number : Nat)
  | device (d : Device)
  deriving Inhabited

/-- A channel as it has been opened. -/
structure Stream where
  channel : Channel
  readable : Bool
  writable : Bool
  deriving Inhabited

/-- How the bytes of arguments make characters. -/
inductive Charset where
  | ascii
  | utf8
  deriving DecidableEq, Repr

abbrev Environment := List (Octets × Octets)

structure World where
  files : Files := {}
  /-- What has been written to each pipe and not been read yet. -/
  pipes : Array Octets := #[]
  streams : Array Stream := #[]
  /-- Signals that wait for processes, each behind the number of its process. -/
  signals : List (Nat × Nat) := []
  /-- The number of the latest process. -/
  latestProcess : Nat := 4000
  /-- The running process, and behind it the one that has started it, and so on. -/
  lineage : List Nat := [4000, 3999]
  /-- The stream behind each open descriptor. -/
  descriptors : List (Nat × Nat) := []
  /-- The working directory. -/
  here : Path := []
  /-- The variables of the environment, of which the first of a name counts. -/
  environment : Environment := []
  /-- The permissions that new files do not get. -/
  mask : Nat := 0o22
  /-- The signals that do nothing to the process. -/
  ignored : List Nat := []
  deriving Inhabited

/-- What changes a world on its way to a value. -/
abbrev Act := StateM World

namespace World

/-! ### The environment -/

def valueOf? (w : World) (name : Octets) : Option Octets := w.environment.lookup name

/-- The environment with a variable set, in the place of its old value if it had one. -/
def setVariable (name value : Octets) : Environment → Environment
  | [] => [(name, value)]
  | e :: rest => if e.1 = name then (name, value) :: rest else e :: setVariable name value rest

def unsetVariable (name : Octets) (environment : Environment) : Environment :=
  environment.filter fun e => e.1 ≠ name

/-- The variables of an environment, each followed by `close`. -/
def environmentText (close : Octets) (environment : Environment) : Octets :=
  String.join (environment.map fun e => e.1 ++ "=" ++ e.2 ++ close)

/-- The name of a character set without its marks, in small letters. -/
def plainName (cs : List Char) : String := String.ofList ((cs.filter Char.isAlphanum).map Char.toLower)

/-- The first of the variables that rule the character set and are not empty decides. -/
def charset (w : World) : Charset :=
  match (["LC_ALL", "LC_CTYPE", "LANG"].filterMap w.valueOf?).find? (· ≠ "") with
  | some name =>
    match name.toList with
    | 'C' :: '.' :: codes => if plainName codes = "utf8" then .utf8 else .ascii
    | _ => .ascii
  | none => .ascii

/-- Whether programs are asked to read their arguments by the letter of the standard. -/
def isStrict (w : World) : Bool := (w.valueOf? "POSIXLY_CORRECT").isSome

/-- A path as text. -/
def pathText (path : Path) : Octets := "/" ++ "/".intercalate path

/-! ### Programs inside programs -/

/-- The world after a program that the program of world `w` started has left it as `later`. -/
def resume (w later : World) : World :=
  { later with
    descriptors := w.descriptors, here := w.here, environment := w.environment, mask := w.mask
    ignored := w.ignored, lineage := w.lineage }

/-- The world of a process that the running one has started. -/
def branch (w : World) : World :=
  { w with latestProcess := w.latestProcess + 1, lineage := (w.latestProcess + 1) :: w.lineage }

/-- The number of the running process. -/
def process (w : World) : Nat := w.lineage.headD 0

/-- Acts in a world whose changes to descriptors, directory and environment are lost afterwards. -/
def apart {α : Type} (act : Act α) : Act α := fun w =>
  let (a, later) := act w
  (a, w.resume later)

/-! ### Descriptors -/

def stream? (w : World) (descriptor : Nat) : Option (Nat × Stream) := do
  let number ← w.descriptors.lookup descriptor
  return (number, ← w.streams[number]?)

def channel? (w : World) (descriptor : Nat) : Option Channel :=
  (w.stream? descriptor).map fun s => s.2.channel

def connect (descriptor stream : Nat) (w : World) : World :=
  { w with descriptors := (descriptor, stream) :: w.descriptors.filter fun e => e.1 ≠ descriptor }

def disconnect (descriptor : Nat) (w : World) : World :=
  { w with descriptors := w.descriptors.filter fun e => e.1 ≠ descriptor }

def addStream (s : Stream) : Act Nat := fun w => (w.streams.size, { w with streams := w.streams.push s })

/-- Makes a pipe, and gives its number. -/
def addPipe : Act Nat := fun w => (w.pipes.size, { w with pipes := w.pipes.push "" })

/-- Takes what is in a pipe. -/
def drain (pipe : Nat) : Act Octets := fun w =>
  (w.pipes[pipe]?.getD "", { w with pipes := w.pipes.setIfInBounds pipe "" })

/-- How a file is opened. -/
inductive Opening where
  | read
  /-- What the file holds is lost. -/
  | truncate
  | append
  | update
  deriving DecidableEq, Repr

def Opening.reads (o : Opening) : Bool := o == .read || o == .update

def Opening.writes (o : Opening) : Bool := o != .read

/-- The channel to what stands at a path that has been resolved. A file that is missing is created, but
not among the processes. -/
def channelTo (o : Opening) (path : Path) (w : World) : Except OsError (Channel × World) :=
  match w.files.node? path with
  | none =>
    if o = .read ∨ path.head? = some "proc" then .error .noEntry
    else .ok (.file path 0 (o == .append), { w with files := w.files.put path (.file [] false) })
  | some (.file _ executable) =>
    let files := if o = .truncate then w.files.put path (.file [] executable) else w.files
    .ok (.file path 0 (o == .append), { w with files })
  | some .directory => if o = .read then .ok (.directory, w) else .error .isDirectory
  | some (.link _) => .error .noEntry
  | some (.device .terminal) => .error .noDevice
  | some (.device (.descriptor n)) =>
    match w.stream? n with
    | none => .error .noEntry
    | some (_, s) =>
      match s.channel with
      | .file path _ _ =>
        let files := match o, w.files.node? path with
          | .truncate, some (.file _ executable) => w.files.put path (.file [] executable)
          | _, _ => w.files
        .ok (.file path 0 (o == .append), { w with files })
      | channel => .ok (channel, w)
  | some (.device d) => .ok (.device d, w)

/-- Opens a file, and gives the number of the stream. -/
def openFile (o : Opening) (path : Octets) : Act (Except OsError Nat) := fun w =>
  let place := if o = .read then w.files.resolve w.here path else w.files.writable w.here path
  match place.bind fun place => w.channelTo o place with
  | .error e => (.error e, w)
  | .ok (channel, w) =>
    let (n, w) := addStream { channel, readable := o.reads, writable := o.writes } w
    (.ok n, w)

/-! ### Reading and writing -/

/-- What can still be read from a descriptor. -/
def unread (w : World) (descriptor : Nat) : Except OsError Octets :=
  match w.stream? descriptor with
  | none => .error .badDescriptor
  | some (_, s) =>
    if !s.readable then .error .badDescriptor
    else match s.channel with
      | .file path position _ =>
        match w.files.node? path with
        | some (.file bytes _) => .ok (Octets.ofBytes (bytes.drop position))
        | _ => .ok ""
      | .directory => .error .isDirectory
      | .pipe n => .ok (w.pipes[n]?.getD "")
      | .device _ => .ok ""

/-- Goes past bytes that have been read. -/
def advance (descriptor count : Nat) (w : World) : World :=
  match w.stream? descriptor with
  | none => w
  | some (number, s) =>
    match s.channel with
    | .file path position appending =>
      let s := { s with channel := .file path (position + count) appending }
      { w with streams := w.streams.setIfInBounds number s }
    | .pipe n => { w with pipes := w.pipes.modify n fun text => String.ofList (text.toList.drop count) }
    | _ => w

/-- Reads all that is left. -/
def readAll (descriptor : Nat) : Act (Except OsError Octets) := fun w =>
  match w.unread descriptor with
  | .error e => (.error e, w)
  | .ok text => (.ok text, w.advance descriptor text.length)

/-- Writes to a descriptor, and says why if that is not possible. -/
def write (descriptor : Nat) (text : Octets) : Act (Option OsError) := fun w =>
  if text = "" then (none, w)
  else match w.stream? descriptor with
    | none => (some .badDescriptor, w)
    | some (number, s) =>
      if !s.writable then (some .badDescriptor, w)
      else match s.channel with
        | .file path _ true => (none, { w with files := w.files.append path text.toBytes })
        | .file path position false =>
          let s := { s with channel := .file path (position + text.length) false }
          let files := w.files.overwrite path position text.toBytes
          (none, { w with files, streams := w.streams.setIfInBounds number s })
        | .directory => (some .badDescriptor, w)
        | .pipe n => (none, { w with pipes := w.pipes.modify n (· ++ text) })
        | .device .full => (some .noSpace, w)
        | .device _ => (none, w)

end World

/-! ### Programs -/

/-- A program knows the name that it was called by and its arguments. It acts and ends. -/
abbrev Program := (self : Octets) → List Octets → Act Command.Ending

/-- What a program that only writes leaves behind. -/
structure Printout where
  code : Nat := 0
  out : Octets := ""
  err : Octets := ""

/-- Complaints come before all other output, which is kept back until the end. -/
def Printout.deliver (failureCode : Nat) (self : Octets) (p : Printout) : Act Command.Ending := do
  let _ ← World.write 2 p.err
  match ← World.write 1 p.out with
  | none => return .exited p.code
  | some e =>
    let _ ← World.write 2 (self ++ ": write error: " ++ e.text ++ "\n")
    return .exited failureCode

/-- A complaint, with the name of the program in front. -/
def complaint (self line : Octets) : Octets := self ++ ": " ++ line ++ "\n"

/-- Ends with a complaint. -/
def complains (code : Nat) (self line : Octets) : Printout := { code, err := complaint self line }

/-- Complains about how the program is used. -/
def misused (code : Nat) (self line : Octets) : Printout :=
  complains code self (line ++ "\nTry '" ++ self ++ " --help' for more information.")

end CommandPipeline.Platform
