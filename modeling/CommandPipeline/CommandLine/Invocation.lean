/-! What a command line asks for. Words are read from the left. An option's value is checked only when
the next option, argument or the end is reached, so that an unknown option is reported first. -/
namespace CommandPipeline.CommandLine

/-! ### Requests -/

structure RunRequest where
  file : String
  /-- The arguments of the pipeline. -/
  arguments : List String := []
  time : Bool := false
  timeCommands : Bool := false
  outputOnly : Bool := false
  logFile : Option String := none
  json : Bool := false
  deriving DecidableEq, Repr

inductive Request where
  | run (r : RunRequest)
  | arguments (file : String)
  | validate (file : String) (json : Bool)
  deriving DecidableEq, Repr

structure Invocation where
  verbose : Bool
  request : Request
  deriving DecidableEq, Repr

/-- Why a command line asks for nothing that the program does. -/
inductive Refusal where
  | help
  | version
  /-- There are neither options nor a command. -/
  | nothing
  | missingCommand
  | unknownCommand
  | unknownArgument
  | missingArgument
  /-- An option has no value, or an empty one. -/
  | missingValue
  /-- A value is given to an option that takes none. -/
  | unwantedValue
  | repeatedOption
  deriving DecidableEq, Repr

/-! ### Options and commands -/

inductive Switch where
  | verbose
  | help
  | version
  | file
  | logFile
  | time
  | timeCommands
  | outputOnly
  | json
  deriving DecidableEq, Repr

namespace Switch

def long : Switch → String
  | .verbose => "verbose"
  | .help => "help"
  | .version => "version"
  | .file => "file"
  | .logFile => "log-file"
  | .time => "time"
  | .timeCommands => "time-cmd"
  | .outputOnly => "output-only"
  | .json => "json"

def letter? : Switch → Option Char
  | .verbose => some 'v'
  | .help => some 'h'
  | .version => some 'V'
  | .file => some 'f'
  | _ => none

def takesValue : Switch → Bool
  | .file => true
  | .logFile => true
  | _ => false

end Switch

inductive Verb where
  | run
  | arguments
  | validate
  deriving DecidableEq, Repr

namespace Verb

def ofWord? : String → Option Verb
  | "run" => some .run
  | "args" => some .arguments
  | "validate" => some .validate
  | _ => none

/-- The options that may follow the command. -/
def switches : Verb → List Switch
  | .run => [.verbose, .help, .file, .logFile, .time, .timeCommands, .outputOnly, .json]
  | .arguments => [.verbose, .help, .file]
  | .validate => [.verbose, .help, .file, .json]

end Verb

/-- The options that may stand in front of the command. -/
def leadingSwitches : List Switch := [.verbose, .help, .version]

/-! ### Reading options -/

/-- What the words so far have given. -/
structure Given where
  flags : List Switch := []
  values : List (Switch × String) := []
  arguments : List String := []
  /-- An option that waits for its value, or whose value is still to be checked. -/
  pending : Option (Switch × Option String) := none
  deriving DecidableEq, Repr

namespace Given

def store (g : Given) (s : Switch) (value : String) : Except Refusal Given :=
  if (g.values.lookup s).isSome then .error .repeatedOption
  else if value = "" then .error .missingValue
  else .ok { g with values := (s, value) :: g.values }

/-- Checks the option that is pending. -/
def settle (g : Given) : Except Refusal Given :=
  match g.pending with
  | none => .ok g
  | some (_, none) => .error .missingValue
  | some (s, some value) => ({ g with pending := none } : Given).store s value

def raise (g : Given) (s : Switch) : Except Refusal Given := do
  let g ← g.settle
  if s = .help then .error .help
  else if s = .version then .error .version
  else if s ∈ g.flags then .error .repeatedOption
  else .ok { g with flags := s :: g.flags }

def await (g : Given) (s : Switch) : Except Refusal Given := do
  let g ← g.settle
  .ok { g with pending := some (s, none) }

def attach (g : Given) (s : Switch) (value : List Char) : Except Refusal Given := do
  let g ← g.settle
  g.store s (String.ofList value)

/-- An option by its name, with the value behind its equals sign if there is one. -/
def readLong (known : List Switch) (g : Given) (name : List Char) (value : Option (List Char)) :
    Except Refusal Given :=
  match known.find? fun s => s.long.toList = name with
  | none => .error .unknownArgument
  | some s =>
    match s.takesValue, value with
    | true, some value => g.attach s value
    | true, none => g.await s
    | false, some _ => .error .unwantedValue
    | false, none => g.raise s

/-- Options by their letters. The letters behind an option that takes a value are that value. -/
def readLetters (known : List Switch) (g : Given) : List Char → Except Refusal Given
  | [] => .ok g
  | c :: rest =>
    match known.find? fun s => s.letter? = some c with
    | none => .error .unknownArgument
    | some s =>
      if s.takesValue then
        match rest with
        | [] => g.await s
        | '=' :: value => g.attach s value
        | value => g.attach s value
      else do readLetters known (← g.raise s) rest

end Given

/-- The text behind the first equals sign, if there is one. -/
def attachedValue (cs : List Char) : Option (List Char) :=
  match cs.dropWhile (· != '=') with
  | [] => none
  | _ :: value => some value

/-- What a word that looks like an option gives, or none if it does not look like one. -/
def option? (known : List Switch) (g : Given) (word : String) : Option (Except Refusal Given) :=
  match word.toList with
  | ['-'] => none
  | '-' :: '-' :: cs => some (g.readLong known (cs.takeWhile (· != '=')) (attachedValue cs))
  | '-' :: cs => some (g.readLetters known cs)
  | _ => none

/-! ### Reading a command -/

/-- A word that is no option. -/
def plainWord (verb : Verb) (g : Given) (word : String) : Except Refusal Given :=
  match verb with
  | .run => do
    let g ← g.settle
    .ok { g with arguments := g.arguments ++ [word] }
  | _ => .error .unknownArgument

/-- A word behind the command. -/
def nextWord (verb : Verb) (g : Given) (word : String) : Except Refusal Given :=
  match option? verb.switches g word with
  | some result => result
  | none =>
    match g.pending with
    | some (s, none) => .ok { g with pending := some (s, some word) }
    | _ => plainWord verb g word

/-- The words behind the command. Two dashes end the options. -/
def readWords (verb : Verb) : Given → List String → Except Refusal Given
  | g, [] => g.settle
  | g, word :: rest =>
    if word = "--" then do (← rest.foldlM (plainWord verb) g).settle
    else do readWords verb (← nextWord verb g word) rest

def request (verb : Verb) (g : Given) : Except Refusal Request :=
  match g.values.lookup .file with
  | none => .error .missingArgument
  | some file => .ok (match verb with
    | .run => .run {
        file
        arguments := g.arguments
        time := .time ∈ g.flags
        timeCommands := .timeCommands ∈ g.flags
        outputOnly := .outputOnly ∈ g.flags
        logFile := g.values.lookup .logFile
        json := .json ∈ g.flags }
    | .arguments => .arguments file
    | .validate => .validate file (.json ∈ g.flags))

/-! ### Reading a command line -/

/-- Help may name a command. -/
def helpOn (words : List String) : Refusal :=
  match words with
  | [] => .help
  | [word] => if word = "help" ∨ (Verb.ofWord? word).isSome then .help else .unknownCommand
  | _ => .unknownCommand

/-- The words before a command is found. -/
def readCommand : Given → List String → Except Refusal Invocation
  | g, [] => .error (if g.flags.isEmpty then .nothing else .missingCommand)
  | g, word :: rest =>
    if word = "help" then .error (helpOn rest)
    else match Verb.ofWord? word with
    | some verb => do
      let given ← readWords verb {} rest
      .ok ⟨.verbose ∈ g.flags ++ given.flags, ← request verb given⟩
    | none =>
      if word = "--" then
        match rest with
        | [] => .error (if g.flags.isEmpty then .nothing else .missingCommand)
        | word :: _ =>
          .error (if word = "help" ∨ (Verb.ofWord? word).isSome then .unknownArgument
            else .unknownCommand)
      else match option? leadingSwitches g word with
      | some (.ok g) => readCommand g rest
      | some (.error e) => .error e
      | none => .error .unknownCommand

/-- What the words behind the program's name ask for. -/
def Invocation.ofWords (words : List String) : Except Refusal Invocation := readCommand {} words

end CommandPipeline.CommandLine
