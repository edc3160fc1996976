import CommandPipeline.Command.Completion
import CommandPipeline.Display.Lines
import CommandPipeline.Language.Parse
import CommandPipeline.Log.Filter

/-! What the program finds when it starts, and what it leaves when it ends. Everything that may differ
from one start to the next is a field of the host. -/
namespace CommandPipeline.CommandLine

/-- What a run works on. -/
structure Scene (σ : Type) where
  files : Platform.Files
  /-- How many log records the run has made so far. -/
  logged : Nat := 0
  /-- The runner's own state. -/
  own : σ

/-- A launcher of programs that work on the files alone. -/
def Scene.launcher {σ : Type} (launch : Command.Launcher Platform.Files) : Command.Launcher (Scene σ) :=
  fun program arguments w =>
    let (result, files) := launch program arguments w.files
    (result, { w with files })

structure Host (σ : Type) where
  files : Platform.Files
  /-- The working directory. -/
  here : Platform.Path := []
  screen : Display.Screen := {}
  /-- The setting of the filter of log records on the screen. -/
  logSetting : Option String := none
  /-- Whether log records on the screen are coloured. -/
  logColour : Bool := false
  /-- The times of the log records that the program makes itself, in their order. -/
  time : Nat → String
  /-- The times of the log records that a run makes, in their order. -/
  runTime : Nat → String
  tokens : Language.TokenSource
  occasion : Run.Occasion
  /-- The runner of commands, which may change files, for a way to log. -/
  runner : (Log.Record → Scene σ → Scene σ) → Command.Runner (Scene σ)

/-- What the program has printed, and what it leaves. -/
structure Result (σ : Type) where
  code : Nat
  /-- The lines of the output. -/
  stdout : List String := []
  /-- The lines of the error output. -/
  stderr : List String := []
  files : Platform.Files
  /-- The runner's state. It is the first one if no command was run. -/
  state : σ

/-- Printed lines as text. -/
def printed (lines : List String) : String := String.join (lines.map (· ++ "\n"))

/-! ### Log records on the screen -/

def Host.recordLines {σ : Type} (h : Host σ) (verbose : Bool) (entries : List Log.Entry) : List String :=
  (entries.filter fun e => (Log.Filter.ofSetting h.logSetting verbose).allows e.record).map
    (Log.Entry.line h.logColour)

/-! ### Errors with their causes -/

/-- An error and, behind it, the chain of its causes. -/
structure Trouble where
  text : String
  causes : List String

/-- The text with the lines after its first one indented. -/
def indented (width : Nat) (s : String) : String :=
  ("\n" ++ String.ofList (List.replicate width ' ')).intercalate (s.splitOn "\n")

/-- A cause with its number in the chain. -/
def numbered (number : Nat) (cause : String) : String :=
  "    " ++ toString number ++ ": " ++ indented 7 cause

namespace Trouble

/-- On one line. -/
def line (t : Trouble) : String := ": ".intercalate (t.text :: t.causes)

/-- On several lines. The causes are numbered if there is more than one. -/
def report (t : Trouble) : List String :=
  ("Error: " ++ t.text) ::
    match t.causes with
    | [] => []
    | [cause] => ["", "Caused by:", "    " ++ indented 4 cause]
    | causes => "" :: "Caused by:" :: causes.zipIdx.map fun c => numbered c.2 c.1

/-- A pipeline that cannot be loaded. -/
def ofParse (path : String) (e : Language.ParseError) : Trouble where
  text := "Error parsing pipeline file " ++ path
  causes := e.message ::
    match e with
    | .unreadable _ cause => [cause.message]
    | _ => []

/-- A log file that cannot be opened. -/
def ofLog (path : String) (e : Platform.FileError) : Trouble where
  text := "Failed to open log file " ++ path
  causes := [e.message]

end Trouble

end CommandPipeline.CommandLine
