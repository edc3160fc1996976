import CommandPipeline.Platform.Numeral
import CommandPipeline.Platform.Shell.Script
import CommandPipeline.Platform.World

/-! What a shell remembers while it runs, and how it speaks of mistakes. -/
namespace CommandPipeline.Platform.Shell

open Text (Octets)

/-! ### Memory -/

structure Variable where
  value : Option Octets := none
  exported : Bool := false
  fixed : Bool := false
  deriving Inhabited

structure Function where
  line : Nat
  body : Command
  deriving Inhabited

/-- What the rest of a script is skipped for. -/
inductive Skip where
  | none
  /-- The end of some loops. -/
  | breaking (loops : Nat)
  /-- The next turn of a loop, which some loops are ended for. -/
  | continuing (loops : Nat)
  /-- The end of a function or a file, with a status or without one. -/
  | returning (stated : Bool)
  deriving DecidableEq, Inhabited

/-- What may be used of something. Without a number there is no limit. -/
structure Limit where
  soft : Option Nat := none
  hard : Option Nat := none
  deriving Inhabited

structure Memory where
  /-- The name in front of complaints. -/
  name : Octets
  parameters : List Octets := []
  vars : List (Octets × Variable) := []
  functions : List (Octets × Function) := []
  aliases : List (Octets × Octets) := []
  /-- Programs that have been found, with their paths and whether the working directory has changed
  since. -/
  found : List (Octets × Octets × Bool) := []
  /-- The names of the options that are set. -/
  options : List String := []
  /-- The actions for signals, of which number 0 is the end of the shell. -/
  traps : List (Nat × Octets) := []
  status : Nat := 0
  /-- The status of the latest command substitution. -/
  substituted : Nat := 0
  line : Nat := 1
  /-- The line that the script has been read to. -/
  lineRead : Nat := 1
  /-- The line that the script has been read to that the shell was started for. -/
  outerLine : Nat := 1
  /-- The builtin command that is running. -/
  command : Option Octets := none
  /-- How many loops the command is in. -/
  loops : Nat := 0
  skip : Skip := .none
  /-- The variables that functions and commands have put aside, the innermost ones first. -/
  aside : List (List (Octets × Option Variable)) := []
  /-- How many functions are running. -/
  depth : Nat := 0
  /-- The process of the shell itself, which a part of it may not be. -/
  root : Nat := 0
  /-- Signals that have come and not been answered yet. -/
  pending : List Nat := []
  /-- The status from before the signal that is being answered. -/
  interrupted : Option Nat := none
  background : Option Nat := none
  /-- The working directory as it has been named. -/
  directory : Octets := "/"
  /-- The argument that `getopts` is at, counted from one, and where in the argument before it. -/
  optionPlace : Nat × Option Nat := (1, none)
  documents : Array Document := #[]
  /-- The limits that have been set, by their letters. -/
  limits : List (Char × Limit) := []
  deriving Inhabited

/-- A command in the background, which is run when the shell waits for something. -/
structure Job where
  /-- What the shell calls it. -/
  number : Nat
  process : Nat
  waiting : Option (Memory × World × Command) := none
  ending : Option Command.Ending := none
  /-- Whether the shell has waited for its end. -/
  awaited : Bool := false

structure Session where
  memory : Memory
  world : World
  /-- What a builtin command has said and not been written yet. -/
  output : Octets := ""
  /-- The jobs, the latest one first. -/
  jobs : List Job := []

/-- Why a shell does not go on. -/
inductive Interrupt where
  /-- A mistake, which ends a shell that nobody types at. -/
  | mistake
  /-- The shell is told to exit. -/
  | exit
  /-- The shell ends on its own. -/
  | finish
  /-- The process is over: by a signal, or as another program. -/
  | over (e : Command.Ending)
  deriving DecidableEq

/-- Steps of a shell. -/
abbrev Step := ExceptT Interrupt (StateM Session)

namespace Step

def memory : Step Memory := return (← get).memory

def remember (f : Memory → Memory) : Step Unit := modify fun s => { s with memory := f s.memory }

def world : Step World := return (← get).world

def inWorld {α : Type} (act : Act α) : Step α := do
  let s ← get
  let (a, world) := act s.world
  set { s with world }
  return a

/-! ### Speaking -/

/-- Says something on the output, once the builtin command is over. -/
def say (text : Octets) : Step Unit := modify fun s => { s with output := s.output ++ text }

/-- Writes what has been said. -/
def flush : Step (Option OsError) := do
  let text := (← get).output
  modify fun s => { s with output := "" }
  inWorld (World.write 1 text)

def sayError (text : Octets) : Step Unit := discard (inWorld (World.write 2 text))

/-- Says what is wrong, and where. -/
def warn (text : Octets) : Step Unit := do
  let m ← memory
  let place := m.name ++ ": " ++ toString m.line ++ ": "
  sayError (place ++ (m.command.elim "" fun c => c ++ ": ") ++ text ++ "\n")

/-- Says what is wrong and goes no further. -/
def fail {α : Type} (text : Octets) (status : Nat := 2) : Step α := do
  remember fun m => { m with status }
  warn text
  discard flush
  throw .mistake

end Step

open Shell.Step

/-! ### Options -/

/-- The options with their letters. -/
def optionTable : List (String × Option Char) :=
  [("errexit", 'e'), ("noglob", 'f'), ("ignoreeof", 'I'), ("interactive", 'i'), ("monitor", 'm'),
   ("noexec", 'n'), ("stdin", 's'), ("xtrace", 'x'), ("verbose", 'v'), ("vi", 'V'), ("emacs", 'E'),
   ("noclobber", 'C'), ("allexport", 'a'), ("notify", 'b'), ("nounset", 'u'), ("privileged", 'p'),
   ("nolog", none), ("debug", none)]

def Memory.has (m : Memory) (option : String) : Bool := m.options.contains option

def Memory.withOption (m : Memory) (option : String) (on : Bool) : Memory :=
  let others := m.options.filter (· ≠ option)
  { m with options := if on then option :: others else others }

/-- The letters of the options that are set. -/
def Memory.optionLetters (m : Memory) : Octets :=
  String.ofList (optionTable.reverse.filterMap fun o => if m.has o.1 then o.2 else none)

/-! ### Variables -/

/-- The whole number that all of a text is. -/
def integer? (s : Octets) : Option Int :=
  match readInteger? true (digits? 10 decimalValue?) s.toList with
  | some ⟨n, false, rest⟩ => if rest.all isSpace then some n else none
  | _ => none

def Memory.variable (m : Memory) (name : Octets) : Variable := (m.vars.lookup name).getD {}

/-- The value of a variable, if it has one. -/
def Memory.valueOf? (m : Memory) (name : Octets) : Option Octets := (m.variable name).value

/-- The variables with one of them changed. A new one comes last. -/
def putVariable (name : Octets) (v : Variable) : List (Octets × Variable) → List (Octets × Variable)
  | [] => [(name, v)]
  | e :: rest => if e.1 = name then (name, v) :: rest else e :: putVariable name v rest

def Memory.withVariable (m : Memory) (name : Octets) (v : Variable) : Memory :=
  { m with
    vars := putVariable name v m.vars
    found := if name = "PATH" then [] else m.found
    optionPlace := if name = "OPTIND" then (max 1 ((v.value.bind integer?).getD 1).toNat, none)
      else m.optionPlace }

/-- Variables of which something stays when they are taken away: those of the shell, and those that
have been put aside. -/
def Memory.isLasting (m : Memory) (name : Octets) : Bool :=
  ["ATTY", "IFS", "MAIL", "MAILPATH", "PATH", "PS1", "PS2", "PS4", "OPTIND", "TERM", "HISTSIZE"].contains name ||
    m.aside.any fun frame => frame.any fun e => e.1 == name

def Memory.without (m : Memory) (name : Octets) : Memory :=
  { m with vars := m.vars.filter fun e => e.1 ≠ name }

/-- Names are kept in 39 drawers, and all that goes through the names goes through the drawers. -/
def drawerOf (name : Octets) : Nat :=
  let first := (name.toList.head?.elim 0 Char.toNat) * 16
  (name.toList.foldl (fun n c => n + c.toNat) first) % 39

def inDrawers {α : Type} (entries : List (Octets × α)) : List (Octets × α) :=
  (List.range 39).flatMap fun drawer => entries.filter fun e => drawerOf e.1 == drawer

/-- The environment of the programs that the shell starts. -/
def Memory.environment (m : Memory) : Environment :=
  (inDrawers m.vars).filterMap fun (name, v) => if v.exported then v.value.map fun s => (name, s) else none

/-- The characters that divide fields. -/
def Memory.separators (m : Memory) : List Char :=
  match m.valueOf? "IFS" with
  | some s => s.toList
  | none => [' ', '\t', '\n']

namespace Step

def integer (s : Octets) : Step Int := do
  match integer? s with
  | some n => return n
  | none => fail ("Illegal number: " ++ s)

/-- A number that counts something. -/
def number (s : Octets) : Step Nat := do
  let n ← integer s
  if n < 0 ∨ 0x80000000 ≤ n then fail ("Illegal number: " ++ s) else return n.toNat

/-- Gives a variable a value, or takes it away. -/
def setVariable (name : Octets) (value : Option Octets) (exported : Bool := false) : Step Unit := do
  if !isName name then fail (name ++ ": bad variable name")
  let m ← memory
  let old := m.variable name
  if old.fixed then fail (name ++ ": is read only")
  if name = "OPTIND" then discard (value.mapM number)
  let exported := old.exported || exported || (m.has "allexport" && value.isSome)
  remember fun m => m.withVariable name { old with value, exported }

/-- Takes a variable away. -/
def unsetVariable (name : Octets) : Step Unit := do
  let m ← memory
  if !isName name then fail (name ++ ": bad variable name")
  let old := m.variable name
  if old.fixed then fail (name ++ ": is read only")
  if m.isLasting name then
    remember fun m => m.withVariable name { old with value := none, exported := old.exported || m.has "allexport" }
  else if (m.vars.lookup name).isSome then
    remember fun m => (m.withVariable name {}).without name

/-- Puts a variable aside until the function or command is over. The options are put aside as a text
under the name of a minus sign. -/
def putAside (name : Octets) : Step Unit :=
  remember fun m =>
    let old := if name = "-" then some { value := some (",".intercalate m.options) }
      else m.vars.lookup name
    match m.aside with
    | frame :: outer => { m with aside := ((name, old) :: frame) :: outer }
    | [] => m

def openFrame : Step Unit := remember fun m => { m with aside := [] :: m.aside }

/-- Puts something back that has been put aside. -/
def restored (m : Memory) (name : Octets) (old : Option Variable) : Memory :=
  match old with
  | some v =>
    if name = "-" then { m with options := ((v.value.getD "").splitOn ",").filter (· ≠ "") }
    else m.withVariable name v
  | none =>
    let m := m.withVariable name {}
    if m.isLasting name then m else m.without name

/-- Puts all back that has been put aside since there were so many frames. -/
def closeFrames (depth : Nat) : Step Unit :=
  remember fun m =>
    let count := m.aside.length - depth
    let m' := (m.aside.take count).flatten.foldl (fun m e => restored m e.1 e.2)
      { m with aside := m.aside.drop count }
    { m' with aside := m.aside.drop count }

/-! ### Options of builtin commands -/

/-- Reads option letters from the front of words, of which some letters have been read before. Letters
with a value have a colon behind them. -/
def options (known : List Char) : (fuel : Nat) → (letters : List Char) → List Octets →
    Step (List (Char × Octets) × List Octets)
  | 0, _, words => return ([], words)
  | fuel + 1, [], words => do
    match words with
    | [] => return ([], [])
    | w :: rest =>
      match w.toList with
      | ['-', '-'] => return ([], rest)
      | '-' :: c :: cs => options known fuel (c :: cs) rest
      | _ => return ([], w :: rest)
  | fuel + 1, c :: cs, words => do
    let place := known.dropWhile (· != c)
    if c = ':' ∨ place.isEmpty then fail ("Illegal option -" ++ String.ofList [c])
    else if place[1]? = some ':' then
      match if cs.isEmpty then words else String.ofList cs :: words with
      | [] => fail ("No arg for -" ++ String.ofList [c] ++ " option")
      | value :: rest =>
        let (found, words) ← options known fuel [] rest
        return ((c, value) :: found, words)
    else
      let (found, words) ← options known fuel cs words
      return ((c, "") :: found, words)

/-- The option letters of a builtin command, and its other words. -/
def readOptions (letters : String) (words : List Octets) : Step (List (Char × Octets) × List Octets) :=
  options letters.toList (words.foldl (fun n w => n + w.length + 2) 2) [] words

end Step

/-! ### Quotes -/

/-- The pieces of a text between single quotes, which stand in double quotes themselves. -/
def singleQuotedFrom : (fuel : Nat) → List Char → List Char
  | 0, _ => []
  | fuel + 1, cs =>
    let text := cs.takeWhile (· != '\'')
    let rest := cs.drop text.length
    let marks := rest.takeWhile (· == '\'')
    let after := rest.drop marks.length
    '\'' :: text ++ ['\''] ++ (if marks.isEmpty then [] else '"' :: marks ++ ['"']) ++
      (if after.isEmpty then [] else singleQuotedFrom fuel after)

/-- A text in quotes that a shell takes off. -/
def singleQuoted (s : Octets) : Octets := String.ofList (singleQuotedFrom (s.length + 1) s.toList)

end CommandPipeline.Platform.Shell
