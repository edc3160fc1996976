import CommandPipeline.Platform.Shell.Search

/-! The builtin commands that say what names stand for: `alias`, `export`, `local`, `unset`, `hash`,
`type` and the like. -/
namespace CommandPipeline.Platform.Shell

open Text (Octets)

/-- A word of the form `name=value` as its two parts. -/
def splitAssignment (word : Octets) : Octets × Option Octets :=
  let name := word.toList.takeWhile (· != '=')
  (String.ofList name,
    if name.length < word.length then some (String.ofList (word.toList.drop (name.length + 1))) else none)

/-! ### Aliases -/

def aliasLine (name text : Octets) : Octets := name ++ "=" ++ singleQuoted text ++ "\n"

/-- Shows or sets an alias, and tells whether that was possible. -/
def aliasWord (word : Octets) : Step Bool := do
  let text? : Option (Octets × Octets) := match word.toList with
    | [] => none
    | c :: cs =>
      let name := cs.takeWhile (· != '=')
      if name.length < cs.length then
        some (String.ofList (c :: name), String.ofList (cs.drop (name.length + 1)))
      else none
  match text? with
  | some (name, text) =>
    Step.remember fun m => { m with
      aliases := if (m.aliases.lookup name).isSome then
          m.aliases.map fun e => if e.1 = name then (name, text) else e
        else m.aliases ++ [(name, text)] }
    return true
  | none =>
    match (← Step.memory).aliases.lookup word with
    | some text =>
      Step.say (aliasLine word text)
      return true
    | none =>
      Step.sayError ("alias: " ++ word ++ " not found\n")
      return false

def runAlias (words : List Octets) : Step Nat := do
  if words.isEmpty then
    let m ← Step.memory
    Step.say (String.join ((inDrawers m.aliases).map fun e => aliasLine e.1 e.2))
    return 0
  else
    let done ← words.mapM aliasWord
    return if done.all id then 0 else 1

def runUnalias (words : List Octets) : Step Nat := do
  if words.head?.any fun w => w.startsWith "-a" then
    Step.remember fun m => { m with aliases := [] }
    return 0
  else
    let (_, words) ← Step.readOptions "" words
    let done ← words.mapM fun name => do
      let known := ((← Step.memory).aliases.lookup name).isSome
      if known then Step.remember fun m => { m with aliases := m.aliases.filter (·.1 ≠ name) }
      else Step.sayError ("unalias: " ++ name ++ " not found\n")
      return known
    return if done.all id then 0 else 1

/-! ### Variables -/

/-- Lines that set variables, sorted by name. -/
def variableLines (front : Octets) (vars : List (Octets × Variable)) : Octets :=
  String.join ((vars.mergeSort fun a b => decide (a.1 ≤ b.1)).map fun e =>
    front ++ e.1 ++ (e.2.value.elim "" fun v => "=" ++ singleQuoted v) ++ "\n")

/-- Marks variables, or shows those that bear the mark. -/
def markVariables (title : Octets) (marked : Variable → Bool) (mark : Variable → Variable)
    (words : List Octets) : Step Nat := do
  let (options, words) ← Step.readOptions "p" words
  if !options.isEmpty ∨ words.isEmpty then
    let m ← Step.memory
    Step.say (variableLines (title ++ " ") (m.vars.filter fun e => marked e.2))
  else
    words.forM fun word => do
      let (name, value) := splitAssignment word
      if value.isSome ∨ ((← Step.memory).vars.lookup name).isNone then Step.setVariable name value
      Step.remember fun m => { m with vars := putVariable name (mark (m.variable name)) m.vars }
  return 0

def runExport : List Octets → Step Nat :=
  markVariables "export" Variable.exported fun v => { v with exported := true }

def runReadonly : List Octets → Step Nat :=
  markVariables "readonly" Variable.fixed fun v => { v with fixed := true }

/-- Puts a variable aside, which gets a value if there is one. -/
def makeLocal (name : Octets) (value : Option Octets) (exported : Bool) : Step Unit := do
  let known := ((← Step.memory).vars.lookup name).isSome
  Step.putAside name
  if name ≠ "-" then
    if value.isSome then Step.setVariable name value exported
    else if !known then Step.setVariable name none

def runLocal (words : List Octets) : Step Nat := do
  if (← Step.memory).aside.isEmpty then Step.fail "not in a function"
  words.forM fun word =>
    let (name, value) := splitAssignment word
    makeLocal name value false
  return 0

def runUnset (words : List Octets) : Step Nat := do
  let (options, words) ← Step.readOptions "vf" words
  if options.getLast?.any fun o => o.1 == 'f' then
    Step.remember fun m => { m with functions := m.functions.filter fun e => !words.contains e.1 }
  else words.forM fun word => Step.unsetVariable (splitAssignment word).1
  return 0

/-! ### Commands -/

/-- Forgets the programs that have been found, shows them, or looks for some. -/
def runHash (words : List Octets) : Step Nat := do
  let (options, words) ← Step.readOptions "r" words
  if !options.isEmpty then
    Step.remember fun m => { m with found := [] }
    return 0
  else if words.isEmpty then
    let m ← Step.memory
    Step.say (String.join (m.foundInOrder.map fun e => e.2.1 ++ (if e.2.2 then "*" else "") ++ "\n"))
    return 0
  else
    let done ← words.mapM fun name => do
      Step.remember fun m => { m with found := m.found.filter (·.1 ≠ name) }
      match ← Step.meaning name with
      | .unknown e =>
        Step.warnUnknown name e
        return false
      | _ => return true
    return if done.all id then 0 else 1

/-- Tells what a name stands for, in a sentence or as it would be written, and whether it is known. -/
def describe (verbose : Bool) (path : Option Octets) (name : Octets) : Step Bool := do
  let m ← Step.memory
  let answer (sentence brief : Octets) : Step Bool := do
    Step.say ((if verbose then name ++ sentence else brief) ++ "\n")
    return true
  let missing : Step Bool := do
    if verbose then Step.say (name ++ ": not found\n")
    return false
  if keywords.contains name then answer " is a shell keyword" name
  else match m.aliases.lookup name with
    | some text => answer (" is an alias for " ++ text) ("alias " ++ name ++ "=" ++ singleQuoted text)
    | none =>
      match if path.isNone then m.found.lookup name else none with
      | some (file, _) => answer (" is a tracked alias for " ++ file) file
      | none =>
        match ← Step.meaning name path with
        | .function _ => answer " is a shell function" name
        | .builtin =>
          answer (" is a " ++ (if isSpecialBuiltin name then "special " else "") ++ "shell builtin") name
        | .file file =>
          let w ← Step.world
          if (w.files.find w.here file).isOk then answer (" is " ++ file) file else missing
        | .unknown _ => missing

def runType (words : List Octets) : Step Nat := do
  let known ← words.mapM (describe true none)
  return if known.all id then 0 else 127

/-- What is left of `command` once it runs nothing: telling what a name stands for. -/
def runCommand (words : List Octets) : Step Nat := do
  let (options, words) ← Step.readOptions "pvV" words
  let path := if options.any fun o => o.1 == 'p' then some usualPath else none
  match options.any fun o => o.1 != 'p', words with
  | true, name :: _ =>
    return if ← describe (options.any fun o => o.1 == 'V') path name then 0 else 127
  | _, _ => return 0

end CommandPipeline.Platform.Shell
