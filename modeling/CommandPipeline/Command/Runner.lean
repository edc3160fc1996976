import CommandPipeline.Command.Error
import CommandPipeline.Log.Record

/-! Command runners. A runner answers each command that it is given; what it answers may depend on
everything that it was asked before, which its state holds. -/
namespace CommandPipeline.Command

/-- Whether the output of a command is kept. -/
inductive Mode where
  | captured
  | plain
  deriving DecidableEq, Repr

/-- What a runner says to a command. -/
structure Answer where
  /-- What the runner logged. -/
  records : List Log.Record := []
  /-- The output of the command, which counts only if it is kept. -/
  reply : Except CommandError String

structure Runner (σ : Type) where
  call : Mode → String → σ → Answer × σ
  /-- What is done about a record that is logged around the calls. -/
  hear : Log.Record → σ → σ := fun _ s => s

/-- What is done about several records. -/
def Runner.hearAll {σ : Type} (runner : Runner σ) (records : List Log.Record) (s : σ) : σ :=
  records.foldl (fun s r => runner.hear r s) s

/-! ### Scripted runners -/

/-- Answers from a list of replies and, once they are used up, with the command itself. -/
def scripted : Runner (List (Except CommandError String)) where
  call _ command
    | [] => ({ reply := .ok command }, [])
    | reply :: rest => ({ reply := reply }, rest)

end CommandPipeline.Command
