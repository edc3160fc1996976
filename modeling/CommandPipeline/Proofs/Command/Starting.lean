import CommandPipeline.Command.Subprocess

/-! What a command has started. The launcher is told once, of the first word of the command as the program
and of the other words as its arguments, or not at all if there is no word. -/
namespace CommandPipeline.Command

variable {σ : Type}

/-- The program of a command with its arguments. -/
def invocation? (command : String) : Option (String × List String) :=
  match (Text.words command.toList).map String.ofList with
  | [] => none
  | program :: arguments => some (program, arguments)

/-- A launcher that writes down what it is told to start. -/
def Launcher.noting (launch : Launcher σ) : Launcher (σ × List (String × List String)) :=
  fun program arguments s =>
    let (result, next) := launch program arguments s.1
    (result, next, s.2 ++ [(program, arguments)])

/-- Hears of a record beside what is written down. -/
def hearBeside (hear : Log.Record → σ → σ) (r : Log.Record)
    (s : σ × List (String × List String)) : σ × List (String × List String) :=
  (hear r s.1, s.2)

theorem foldl_hearBeside (hear : Log.Record → σ → σ) (records : List Log.Record)
    (s : σ × List (String × List String)) :
    (records.foldl (fun s r => hearBeside hear r s) s).2 = s.2 := by
  induction records generalizing s with
  | nil => rfl
  | cons r rest ih => exact ih (hearBeside hear r s)

/-- The launcher gets the program of the command with its arguments, and nothing else. -/
theorem started_runWith (launch : Launcher σ) (hear : Log.Record → σ → σ) (mode : Mode)
    (command : String) (s : σ) (started : List (String × List String)) :
    (runWith launch.noting (hearBeside hear) mode command (s, started)).2.2 =
      started ++ (invocation? command).toList := by
  unfold runWith invocation?
  cases (Text.words command.toList).map String.ofList with
  | nil => simp
  | cons program arguments =>
    simp only [Launcher.noting, hearBeside]
    cases (launch program arguments (hear (debugRecord ("Spawning: " ++ command)) s)).1 with
    | error fault => rfl
    | ok c => exact foldl_hearBeside hear _ _

end CommandPipeline.Command
