import CommandPipeline.Platform.Shell.Parser
import CommandPipeline.Platform.Shell.Redirection
import CommandPipeline.Platform.Start

/-! What the name of a command stands for: a function, a builtin command, or a program that is looked
for in the directories of the search path. -/
namespace CommandPipeline.Platform.Shell

open Text (Octets)

/-! ### Builtin commands -/

/-- The builtin commands that are not special. -/
def plainBuiltins : List Octets :=
  ["alias", "bg", "cd", "chdir", "command", "echo", "false", "fg", "getopts", "hash", "jobs", "kill",
   "printf", "pwd", "read", "test", "[", "true", "type", "ulimit", "umask", "unalias", "wait"]

/-- The builtin commands whose words may be assignments. -/
def assigningBuiltins : List Octets := ["alias", "export", "local", "readonly"]

def isSpecialBuiltin (name : Octets) : Bool := Reader.specialNames.contains name

def isBuiltin (name : Octets) : Bool := isSpecialBuiltin name || plainBuiltins.contains name

/-! ### Looking for programs -/

inductive Meaning where
  | builtin
  | function (f : Function)
  | file (path : Octets)
  | unknown (e : OsError)

/-- The first file of the directories that can be started, or why there is none. -/
def searchIn (w : World) (name : Octets) : (reason : OsError) → List Octets → Except OsError Octets
  | reason, [] => .error reason
  | reason, directory :: rest =>
    let path := inDirectory directory name
    match w.files.find w.here path with
    | .error e => searchIn w name (if e = .noEntry ∨ e = .notDirectory then reason else e) rest
    | .ok (.file _ true) => .ok path
    | .ok _ => searchIn w name .accessDenied rest

/-- The search path, of which nothing is left once the variable is taken away. -/
def Memory.path (m : Memory) : Octets := (m.valueOf? "PATH").getD ""

def usualPath : Octets := "/usr/local/sbin:/usr/local/bin:/usr/sbin:/usr/bin:/sbin:/bin"

namespace Step

/-- What a name stands for. A search path that is not the usual one is not remembered. -/
def meaning (name : Octets) (path : Option Octets := none) (functions : Bool := true) : Step Meaning := do
  let m ← memory
  if name.toList.contains '/' then return .file name
  else match if functions then m.functions.lookup name else none with
    | some f => return .function f
    | none =>
      if isBuiltin name then return .builtin
      else match if path.isNone then m.found.lookup name else none with
        | some (file, false) => return .file file
        | _ =>
          match searchIn (← world) name .noEntry (searchPath (path.getD m.path)) with
          | .error e => return .unknown e
          | .ok file =>
            if path.isNone then
              remember fun m => { m with found := (name, file, false) :: m.found.filter (·.1 ≠ name) }
            return .file file

/-- Complains about a command that is not there. -/
def warnUnknown (name : Octets) (e : OsError) : Step Unit :=
  warn (name ++ ": " ++ fileErrorText "not found" e)

end Step

/-- The programs that have been found, in the order of 31 drawers. -/
def Memory.foundInOrder (m : Memory) : List (Octets × Octets × Bool) :=
  let drawer (name : Octets) : Nat :=
    (name.toList.foldl (fun n c => n + c.toNat) ((name.toList.head?.elim 0 Char.toNat) * 16)) % 0x8000 % 31
  (List.range 31).flatMap fun d => m.found.reverse.filter fun e => drawer e.1 == d

end CommandPipeline.Platform.Shell
