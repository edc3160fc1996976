import CommandPipeline.Command.Error

/-! Programs that have ended, and the means to start one. -/
namespace CommandPipeline.Command

/-- How a program ended. -/
inductive Ending where
  | exited (code : Nat)
  | signaled (number : Nat)
  deriving DecidableEq, Repr

namespace Ending

def code? : Ending → Option Int
  | .exited code => some code
  | .signaled _ => none

def success : Ending → Bool
  | .exited code => code == 0
  | .signaled _ => false

/-- The names of the signals, from number 1 on. -/
def signalNames : List String :=
  ["HUP", "INT", "QUIT", "ILL", "TRAP", "ABRT", "BUS", "FPE", "KILL", "USR1", "SEGV", "USR2", "PIPE",
   "ALRM", "TERM", "STKFLT", "CHLD", "CONT", "STOP", "TSTP", "TTIN", "TTOU", "URG", "XCPU", "XFSZ",
   "VTALRM", "PROF", "WINCH", "IO", "PWR", "SYS"]

def signalName? : Nat → Option String
  | 0 => none
  | n + 1 => signalNames[n]?

def describe : Ending → String
  | .exited code => "exit status: " ++ toString code
  | .signaled number =>
    match signalName? number with
    | some name => "signal: " ++ toString number ++ " (SIG" ++ name ++ ")"
    | none => "signal: " ++ toString number

end Ending

/-- What a program that has ended leaves behind. -/
structure Completion where
  ending : Ending
  stdout : List UInt8 := []
  stderr : List UInt8 := []

/-- How the system starts a program with arguments and waits for its end, which may change the state of
the system. -/
abbrev Launcher (σ : Type) := String → List String → σ → Except StartFault Completion × σ

end CommandPipeline.Command
