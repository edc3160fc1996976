import CommandPipeline.Display.Style

/-! Log records and their lines. -/
namespace CommandPipeline.Log

inductive Level where
  | error
  | warn
  | info
  | debug
  | trace
  deriving DecidableEq, Repr

namespace Level

/-- How much a level tells: a higher rank is more detailed. -/
def rank : Level → Nat
  | .error => 1
  | .warn => 2
  | .info => 3
  | .debug => 4
  | .trace => 5

def title : Level → String
  | .error => "ERROR"
  | .warn => "WARN"
  | .info => "INFO"
  | .debug => "DEBUG"
  | .trace => "TRACE"

/-- The title, padded on the left to five characters. -/
def padded (l : Level) : String :=
  String.ofList (List.replicate (5 - l.title.length) ' ') ++ l.title

def style : Level → Display.Style
  | .error => .red
  | .warn => .yellow
  | .info => .green
  | .debug => .blue
  | .trace => .magenta

end Level

structure Record where
  level : Level
  /-- The part of the program that speaks. -/
  target : String
  message : String
  deriving DecidableEq, Repr

/-- A record with the time at which it was made. -/
structure Entry where
  time : String
  record : Record
  deriving DecidableEq, Repr

/-- Records with their times, of which the first one is that of number `first`. -/
def stamped (time : Nat → String) (first : Nat) (records : List Record) : List Entry :=
  (records.zipIdx first).map fun e => ⟨time e.2, e.1⟩

theorem stamped_append (time : Nat → String) (first : Nat) (records more : List Record) :
    stamped time first (records ++ more) =
      stamped time first records ++ stamped time (first + records.length) more := by
  simp only [stamped, List.zipIdx_append, List.map_append]

/-- The times add and leave out no record. -/
theorem map_record_stamped (time : Nat → String) (first : Nat) (records : List Record) :
    (stamped time first records).map Entry.record = records := by
  rw [stamped, List.map_map]
  exact List.zipIdx_map_fst first records

/-! ### The parts of the program -/

def program : String := "simplepipe"
def parser : String := "simplepipe::parser"
def machine : String := "simplepipe::parser::machine"
def engine : String := "simplepipe::execution::engine"
def executor : String := "simplepipe::execution::executor"
def subprocess : String := "simplepipe::process::subprocess"

/-! ### Lines -/

/-- Terminal control characters are shown by their number, so that a message cannot act on the
reader's terminal. -/
def escapeControl (c : Char) : List Char :=
  let n := c.toNat
  if n = 0x1B ∨ n = 0x07 ∨ n = 0x08 ∨ n = 0x0C ∨ n = 0x7F then
    ['\\', 'x', Nat.digitChar (n / 16), Nat.digitChar (n % 16)]
  else if 0x80 ≤ n ∧ n ≤ 0x9F then
    ['\\', 'u', '{', Nat.digitChar (n / 16), Nat.digitChar (n % 16), '}']
  else [c]

def escapeMessage (s : String) : String :=
  String.ofList (s.toList.flatMap escapeControl)

def Entry.line (colour : Bool) (e : Entry) : String :=
  let dim := Display.Style.dim.paint colour
  dim e.time ++ " " ++ e.record.level.style.paint colour e.record.level.padded ++ " " ++
    dim e.record.target ++ dim ":" ++ " " ++ escapeMessage e.record.message

/-- A log file takes the levels up to info, or up to debug if it is verbose. -/
def fileTakes (verbose : Bool) (r : Record) : Bool :=
  r.level.rank ≤ (if verbose then Level.debug else Level.info).rank

/-- What the entries add to a log file, which has no colours. -/
def fileText (verbose : Bool) (entries : List Entry) : String :=
  String.join ((entries.filter fun e => fileTakes verbose e.record).map fun e => e.line false ++ "\n")

/-! ### Values with a log -/

/-- A value together with what was logged on the way to it. -/
structure Logged (α : Type) where
  records : List Record
  value : α

end CommandPipeline.Log
