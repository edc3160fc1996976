import CommandPipeline.Command.Completion
import CommandPipeline.Command.Runner
import CommandPipeline.Text.Blank

/-! The runner that starts programs. A command is cut at its blanks into a program and its arguments;
there is no quoting. -/
namespace CommandPipeline.Command

/-- The text without the line ends that close it. -/
def withoutLineEnds (s : String) : String :=
  String.ofList (Text.dropEndWhile (fun c => c == '\n' || c == '\r') s.toList)

/-- What a program wrote to its error output, if that is more than blanks. -/
def complaint (stderr : List UInt8) : String :=
  String.ofList (Text.trim (Text.Utf8.decodeLossy stderr).toList)

def debugRecord (message : String) : Log.Record := ⟨.debug, Log.subprocess, message⟩

/-- What the runner says of a program that has ended. -/
def judge (mode : Mode) (command : String) (c : Completion) : Answer :=
  if c.ending.success then
    match mode with
    | .plain => { reply := .ok "" }
    | .captured =>
      match Text.Utf8.decode c.stdout with
      | .error fault => { reply := .error (.notText fault) }
      | .ok text => {
          records := [debugRecord ("'" ++ command ++ "' returned " ++ toString text.utf8ByteSize ++
            " bytes of output")]
          reply := .ok (withoutLineEnds text) }
  else
    let text := complaint c.stderr
    { records := [⟨.warn, Log.subprocess,
        "'" ++ command ++ "' exited with " ++ c.ending.describe ++ ": " ++ text⟩]
      reply := .error (.failed command c.ending.code? (if text = "" then none else some text)) }

/-- Starts the first word of a command with the other words as arguments. Each record is heard of before
what follows it is done. -/
def runWith {σ : Type} (launch : Launcher σ) (hear : Log.Record → σ → σ) (mode : Mode) (command : String)
    (s : σ) : Answer × σ :=
  match (Text.words command.toList).map String.ofList with
  | [] => ({ reply := .error .empty }, s)
  | program :: arguments =>
    let started := debugRecord ("Spawning: " ++ command)
    match launch program arguments (hear started s) with
    | (.error fault, s) => ({ records := [started], reply := .error (.notStarted program fault) }, s)
    | (.ok c, s) =>
      let a := judge mode command c
      ({ a with records := started :: a.records }, a.records.foldl (fun s r => hear r s) s)

/-- The runner that starts programs. Its state is that of the system. -/
def subprocess {σ : Type} (launch : Launcher σ) (hear : Log.Record → σ → σ := fun _ s => s) : Runner σ where
  call := runWith launch hear
  hear

end CommandPipeline.Command
