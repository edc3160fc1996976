import CommandPipeline.Document
import CommandPipeline.Duration
import CommandPipeline.Timestamp
import CommandPipeline.Uuid

/-! What a run leaves behind. -/
namespace CommandPipeline.Run

/-- What happened at one step. A step that was never reached has the default entry. -/
structure Entry where
  /-- The command with its variables replaced, or the value that was copied. -/
  command : String := ""
  /-- Why the step failed, if it did. -/
  error : Option String := none
  elapsed : Duration := .zero
  deriving DecidableEq

instance : Inhabited Entry := ⟨{}⟩

def Entry.failed (e : Entry) : Bool := e.error.isSome

structure Report where
  id : Uuid
  startedAt : Timestamp
  /-- The variables at the end of the run. -/
  vars : Bindings
  /-- One for each step of the document, in order. -/
  entries : List Entry
  totalTime : Duration
  /-- The value of the output variable, or nothing. -/
  output : String
  deriving DecidableEq

/-- The first entry of a list that failed, with its position counted from `i`. -/
def firstFailed : Nat → List Entry → Option (Nat × Entry)
  | _, [] => none
  | i, e :: rest => if e.failed then some (i, e) else firstFailed (i + 1) rest

def Report.failedStep (r : Report) : Option (Nat × Entry) := firstFailed 0 r.entries

/-- What sets one run of a document apart from another: its identity and its clock. -/
structure Occasion where
  id : Uuid
  startedAt : Timestamp
  /-- How long step `i` takes. -/
  elapsed : Nat → Duration
  totalTime : Duration

end CommandPipeline.Run
