import CommandPipeline.Platform.Shell.Session

/-! The builtin commands for options, parameters, signals and the way through a script: `set`, `shift`,
`trap`, `exit`, `return`, `break` and `continue`. -/
namespace CommandPipeline.Platform.Shell

open Text (Octets)

/-! ### Options -/

/-- The lines that show the options, for a reader or for a shell. -/
def optionLines (m : Memory) (readable : Bool) : Octets :=
  if readable then
    "Current option settings\n" ++ String.join (optionTable.map fun o =>
      o.1 ++ String.ofList (List.replicate (16 - o.1.length) ' ') ++ (if m.has o.1 then "on" else "off") ++ "\n")
  else String.join (optionTable.map fun o => "set " ++ (if m.has o.1 then "-" else "+") ++ "o " ++ o.1 ++ "\n")

namespace Step

/-- Turns an option on or off. -/
def setOption (on : Bool) (option : String) : Step Unit := remember fun m => m.withOption option on

/-- What words ask of options. -/
structure OptionWords where
  /-- The words that have not been read. -/
  rest : List Octets
  /-- The options that have not been spoken of. -/
  unstated : List String := optionTable.map Prod.fst
  /-- Whether the parameters are to be given up. -/
  clears : Bool := false
  /-- Whether a script is given as a word. -/
  script : Bool := false
  /-- Whether the shell is the first one of a user. -/
  login : Bool := false

/-- Turns an option on or off that words speak of. -/
def OptionWords.state (o : OptionWords) (on : Bool) (option : String) : Step OptionWords := do
  setOption on option
  return { o with unstated := o.unstated.filter (· ≠ option) }

/-- Sets options by letters, of which one takes a word. One of two editors is given up for the other. At
the start of a shell more letters are known. -/
def optionLetters (starting on : Bool) : OptionWords → List Char → Step OptionWords
  | o, [] => return o
  | o, c :: cs => do
    let o ← if c = 'c' ∧ starting then pure { o with script := true }
      else if c = 'l' ∧ starting then pure { o with login := true }
      else if c = 'o' then
        match o.rest with
        | [] =>
          say (optionLines (← memory) on)
          pure o
        | name :: rest =>
          if optionTable.any fun e => e.1 == name then OptionWords.state { o with rest } on name
          else fail ("Illegal option -o " ++ name)
      else match optionTable.find? fun e => e.2 == some c with
        | none => fail ("Illegal option -" ++ String.ofList [c])
        | some (name, _) =>
          let o ← o.state on name
          if on ∧ name = "vi" then o.state false "emacs"
          else if on ∧ name = "emacs" then o.state false "vi"
          else pure o
    optionLetters starting on o cs

/-- Sets options by words. -/
def optionWords (starting : Bool) : (fuel : Nat) → OptionWords → Step OptionWords
  | 0, o => return o
  | fuel + 1, o => do
    match o.rest with
    | [] => return o
    | w :: rest =>
      match w.toList with
      | ['-'] =>
        if !starting then
          setOption false "xtrace"
          setOption false "verbose"
        return { o with rest }
      | ['-', '-'] => return { o with rest, clears := !starting && rest.isEmpty }
      | '-' :: cs => optionWords starting fuel (← optionLetters starting true { o with rest } cs)
      | '+' :: cs => optionWords starting fuel (← optionLetters starting false { o with rest } cs)
      | _ => return o

/-- Gives the shell other parameters. -/
def setParameters (parameters : List Octets) : Step Unit :=
  remember fun m => { m with parameters, optionPlace := (1, none) }

/-- Nobody sits at a terminal, so that jobs cannot be controlled. -/
def checkTerminal : Step Unit := do
  if (← memory).has "monitor" then
    warn "can't access tty; job control turned off"
    remember fun m => m.withOption "monitor" false

end Step

def runShift (words : List Octets) : Step Nat := do
  let n ← words.head?.elim (pure 1) Step.number
  let parameters := (← Step.memory).parameters
  if parameters.length < n then Step.fail "can't shift that many"
  Step.setParameters (parameters.drop n)
  return 0

/-! ### Signals -/

/-- The numbers of all signals follow those that have names of their own. -/
def signalCount : Nat := 65

/-- The name of a signal, of which number 0 is the end of the shell. -/
def signalTitle (n : Nat) : String :=
  if n = 0 then "EXIT"
  else if n = 16 ∨ n = 32 ∨ n = 33 then toString n
  else if n < 32 then (Command.Ending.signalName? n).getD ""
  else if n = 34 then "RTMIN"
  else if n < 50 then "RTMIN+" ++ toString (n - 34)
  else if n < 64 then "RTMAX-" ++ toString (64 - n)
  else "RTMAX"

def signalByNumber? (word : Octets) : Option Nat :=
  if word.toList.isEmpty ∨ !word.toList.all Char.isDigit then none
  else (digits? 10 decimalValue? word.toList).bind fun d => if d.1 < signalCount then some d.1 else none

/-- The number of a signal by its number or its name, from a least one on. -/
def signal? (least : Nat) (word : Octets) : Option Nat :=
  (signalByNumber? word).or <|
    ((List.range signalCount).drop least).find? fun n =>
      (signalTitle n).toList.map Char.toLower = word.toList.map Char.toLower

/-- What a signal does to a process that has made no plans for it. -/
inductive SignalEffect where
  | ends
  | nothing
  deriving DecidableEq

def effectOf (n : Nat) : SignalEffect :=
  if n = 0 ∨ (17 ≤ n ∧ n ≤ 23) ∨ n = 28 then .nothing else .ends

namespace Step

/-- A signal comes to the shell. -/
def receive (n : Nat) : Step Unit := do
  let s ← get
  let hard := n == 9
  if !hard && s.world.ignored.contains n then return ()
  else match if hard then none else s.memory.traps.lookup n with
    | some action => if action ≠ "" then remember fun m => { m with pending := m.pending ++ [n] }
    | none => if effectOf n = .ends then throw (.over (.signaled n))

/-- Receives the signals that other processes have sent. -/
def receiveAll : Step Unit := do
  let w ← world
  let own := w.signals.filter fun s => s.1 == w.process
  inWorld (modify fun w => { w with signals := w.signals.filter fun s => s.1 != w.process })
  own.forM fun s => receive s.2

end Step

def trapLine (trap : Nat × Octets) : Octets :=
  "trap -- " ++ singleQuoted trap.2 ++ " " ++ signalTitle trap.1 ++ "\n"

/-- Sets an action for signals, or takes the action away, and tells whether all of them are known. -/
def setTraps (action : Option Octets) : List Octets → Step Bool
  | [] => return true
  | word :: rest => do
    match signal? 0 word with
    | none =>
      Step.sayError ("trap: " ++ word ++ ": bad trap\n")
      return false
    | some n =>
      Step.remember fun m =>
        let others := m.traps.filter (·.1 ≠ n)
        { m with traps := action.elim others fun a => (n, a) :: others }
      setTraps action rest

def runTrap (words : List Octets) : Step Nat := do
  let (_, words) ← Step.readOptions "" words
  match words with
  | [] =>
    let m ← Step.memory
    Step.say (String.join ((m.traps.mergeSort fun a b => decide (a.1 ≤ b.1)).map trapLine))
    return 0
  | action :: signals =>
    let done ← if signals.isEmpty ∨ (signalByNumber? action).isSome then setTraps none words
      else setTraps (if action = "-" then none else some action) signals
    return if done then 0 else 1

/-! ### The way through a script -/

/-- Ends the shell. In an action for a signal the status from before the signal counts. -/
def runExit (words : List Octets) : Step Nat := do
  let m ← Step.memory
  let status ← words.head?.elim (pure (m.interrupted.getD m.status)) Step.number
  Step.remember fun m => { m with status := status % 256 }
  throw .exit

def runReturn (words : List Octets) : Step Nat := do
  let m ← Step.memory
  let status ← words.head?.elim (pure m.status) Step.number
  Step.remember fun m => { m with skip := .returning !words.isEmpty }
  return status

/-- Leaves loops, or goes on with the next turn of one. -/
def runBreak (skip : Nat → Skip) (words : List Octets) : Step Nat := do
  let n ← words.head?.elim (pure 1) Step.number
  if n = 0 then Step.fail ("Illegal number: " ++ words.headD "")
  let loops := min n (← Step.memory).loops
  if loops ≠ 0 then Step.remember fun m => { m with skip := skip loops }
  return 0

end CommandPipeline.Platform.Shell
