import CommandPipeline.Command.Subprocess
import CommandPipeline.CommandLine.Program
import CommandPipeline.Platform.Launch
import Std.Time.DateTime.Timestamp

/-! The command line. It gives the program the clock, which it reads once, the files that the program names
and the variables that it looks at, and prints what the program answers. Commands run among the programs of
the library. -/
namespace CommandPipeline

open CommandLine (Invocation Host Result)
open Platform (Files Path World)

/-- The files that an invocation may read or add to. -/
def namedFiles (words : List String) : List String :=
  match Invocation.ofWords words with
  | .error _ => []
  | .ok i =>
    match i.request with
    | .run r => r.file :: r.logFile.toList
    | .arguments file => [file]
    | .validate file _ => [file]

/-- The names of a path, with the working directory in front of a relative one. -/
def absolute (here : String) (path : String) : List String :=
  let text := if path.startsWith "/" then path else here ++ "/" ++ path
  (text.splitOn "/").filter fun name => name ≠ "" ∧ name ≠ "."

/-- Adds the directories on the way to a path, as far as they exist. -/
def addDirectories (names : List String) (files : Files) : IO Files := do
  let root ← IO.currentDir
  let mut files := files
  for n in List.range (names.length + 1) do
    let path := names.take n
    if ← (root / World.pathText path).isDir then
      files := files.put path .directory
  return files

/-- Adds a file with its bytes, if it can be read. -/
def addFile (here path : String) (files : Files) : IO Files := do
  let names := absolute here path
  let files ← addDirectories names files
  try
    let bytes ← IO.FS.readBinFile (World.pathText names)
    return files.put names (.file bytes.data.toList false)
  catch _ => return files

/-- Adds to a file what the program added to it. -/
def saveGrowth (here path : String) (before after : Files) : IO Unit := do
  let names := absolute here path
  let bytesIn (files : Files) : List UInt8 := ((files.read [] (World.pathText names)).toOption).getD []
  let added := (bytesIn after).drop (bytesIn before).length
  if !added.isEmpty || ((before.node? names).isNone && (after.node? names).isSome) then
    IO.FS.withFile path .append fun handle => handle.write ⟨added.toArray⟩

/-- Letter `i` of random token `k`. -/
def drawnLetter (seed k i : Nat) : Fin 62 :=
  let generator := Nat.repeat (fun g => (stdNext g).2) (10 * k + i) (mkStdGen seed)
  Fin.ofNat 62 (stdNext generator).1

/-- The variables that programs see, as far as they are set. -/
def visibleVariables : IO (List (String × String)) := do
  let names := ["PATH", "HOME", "LANG", "LC_ALL", "USER", "TERM"]
  names.filterMapM fun name => do return (← IO.getEnv name).map fun value => (name, value)

/-- The host as the program finds it. -/
def currentHost (words : List String) : IO (Host Unit) := do
  let here := toString (← IO.currentDir)
  let mut files ← addDirectories (absolute here "") Platform.usualFiles
  for path in namedFiles words do
    files ← addFile here path files
  let now ← Std.Time.Timestamp.now
  let clock := Timestamp.clockText (now.toNanosecondsSinceUnixEpoch.val.toNat / 1000)
  let environment ← visibleVariables
  let seed ← IO.rand 0 0x80000000
  let id ← IO.rand 0 (UInt64.size * UInt64.size - 1)
  let lang := ((← IO.getEnv "LANG").getD "").toUpper
  let here := absolute here ""
  return {
    files
    here
    screen := { emoji := lang.endsWith "UTF-8" }
    logSetting := ← IO.getEnv "RUST_LOG"
    logColour := ((← IO.getEnv "NO_COLOR").getD "").isEmpty
    time := fun _ => clock
    runTime := fun _ => clock
    tokens := { letter := drawnLetter seed }
    occasion := {
      id := .ofNat id
      startedAt := (Timestamp.parse? clock).getD .epoch
      elapsed := fun _ => .zero
      totalTime := .zero }
    runner := fun note =>
      Command.subprocess (CommandLine.Scene.launcher (Platform.launcher {} { here, environment })) note }

end CommandPipeline

open CommandPipeline in
def main (words : List String) : IO UInt32 := do
  let host ← currentHost words
  let result := CommandLine.execute host words ()
  IO.print (CommandLine.printed result.stdout)
  IO.eprint (CommandLine.printed result.stderr)
  for path in namedFiles words do
    saveGrowth (toString (← IO.currentDir)) path host.files result.files
  return UInt32.ofNat result.code
