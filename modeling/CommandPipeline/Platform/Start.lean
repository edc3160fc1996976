import CommandPipeline.Platform.World

/-! Starting programs by their names, which are looked for in the directories of a search path. -/
namespace CommandPipeline.Platform

open Text (Octets)

/-- What the file at a path does as a program, which is called by a name. -/
abbrev Start := (file self : Octets) → List Octets → Act (Except OsError Command.Ending)

/-- The directories of a search path. -/
def searchPath (path : Octets) : List Octets := path.splitOn ":"

/-- A file in a directory of a search path, in which nothing stands for the working directory. -/
def inDirectory (directory name : Octets) : Octets :=
  if directory = "" then name else directory ++ "/" ++ name

namespace Start

/-- Tries one file after another, as long as the files are not there or may not be started. -/
def tryAll (start : Start) (self : Octets) (args : List Octets) (denied : Bool) (latest : OsError) :
    List Octets → Act (Except OsError Command.Ending)
  | [] => return .error (if denied then .accessDenied else latest)
  | file :: rest => do
    match ← start file self args with
    | .error e =>
      if e = .noEntry ∨ e = .notDirectory ∨ e = .accessDenied then
        tryAll start self args (denied || e == .accessDenied) e rest
      else return .error e
    | done => return done

/-- Starts a program by its name. A name with a slash is a path, and any other one is looked for in
the directories of the variable `PATH`. -/
def byName (start : Start) (program : Octets) (args : List Octets) : Act (Except OsError Command.Ending) := do
  if program = "" then return .error .noEntry
  else if program.toList.contains '/' then start program program args
  else if 255 < program.length then return .error .nameTooLong
  else
    let path := ((← get).valueOf? "PATH").getD "/bin:/usr/bin"
    tryAll start program args false .noEntry ((searchPath path).map fun d => inDirectory d program)

end Start

end CommandPipeline.Platform
