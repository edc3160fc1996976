import CommandPipeline.Platform.OsError
import CommandPipeline.Text.Utf8

/-! Why a command fails. -/
namespace CommandPipeline.Command

/-- Why a program does not start. -/
inductive StartFault where
  | os (e : Platform.OsError)
  /-- A word of the command holds the character NUL. -/
  | nulInWord
  deriving DecidableEq, Repr

def StartFault.message : StartFault → String
  | .os e => e.message
  | .nulInWord => "nul byte found in provided data"

inductive CommandError where
  /-- The command has no word. -/
  | empty
  | notStarted (program : String) (fault : StartFault)
  /-- The command ended without success: with a code, or with none if a signal ended it. -/
  | failed (command : String) (code : Option Int) (stderr : Option String)
  /-- What the command wrote is not text. -/
  | notText (fault : Text.Utf8.Fault)
  deriving DecidableEq, Repr

namespace CommandError

/-- How an unsuccessful command ended. -/
def ending (code : Option Int) (stderr : Option String) : String :=
  let status := match code with
    | some n => "code " ++ toString n
    | none => "signal"
  match stderr with
  | some text => status ++ ": " ++ text
  | none => status

def message : CommandError → String
  | .empty => "empty command"
  | .notStarted program fault => "failed to start " ++ program ++ ": " ++ fault.message
  | .failed command code stderr => "command '" ++ command ++ "' exited with " ++ ending code stderr
  | .notText fault => "command output is not valid UTF-8: " ++ fault.message

end CommandError

end CommandPipeline.Command
