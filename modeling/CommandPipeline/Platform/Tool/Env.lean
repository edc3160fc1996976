import CommandPipeline.Platform.Numeral
import CommandPipeline.Platform.Options
import CommandPipeline.Platform.Quoting
import CommandPipeline.Platform.Start

/-! The programs `printenv` and `env`: one shows the environment, the other changes it for another
program. -/
namespace CommandPipeline.Platform.Tool

open Text (Octets)

/-! ### Showing the environment -/

def printenvOptions : OptionSet where
  flags := ['i', '0']
  valued := ['u']
  words := [⟨"null", .nothing, "0"⟩, ⟨"help", .nothing, "help"⟩, ⟨"version", .nothing, "version"⟩]

def printenv : Program := withOptions 2 printenvOptions fun self p => do
  let w ← get
  let close := if p.has "0" then "\x00" else "\n"
  let values := p.operands.map fun name => if name.toList.contains '=' then none else w.valueOf? name
  let printout : Printout :=
    if p.has "i" || p.has "u" then { code := 2, err := "Try '" ++ self ++ " --help' for more information.\n" }
    else if p.operands.isEmpty then { out := World.environmentText close w.environment }
    else { code := if values.all Option.isSome then 0 else 1
           out := String.join ((values.filterMap id).map (· ++ close)) }
  printout.deliver 2 self

/-! ### Options of env -/

/-- How a signal is to be treated. -/
inductive SignalUse where
  | default
  | ignore
  | block
  | unblock
  deriving DecidableEq

structure EnvOptions where
  /-- The character set in which it complains. -/
  charset : Charset
  clear : Bool := false
  unset : List Octets := []
  null : Bool := false
  explain : Bool := false
  listSignals : Bool := false
  directory : Option Octets := none
  /-- What is asked for signals, the latest first, and whether it may fail. -/
  signals : List (Nat × SignalUse × Bool) := []

def envOptionSet : OptionSet where
  flags := "iv0 \t\n\x0b\x0c\r".toList
  valued := "CSu".toList
  words :=
    [⟨"ignore-environment", .nothing, "i"⟩, ⟨"null", .nothing, "0"⟩, ⟨"unset", .value, "u"⟩,
     ⟨"chdir", .value, "C"⟩, ⟨"default-signal", .maybe, "default-signal"⟩,
     ⟨"ignore-signal", .maybe, "ignore-signal"⟩, ⟨"block-signal", .maybe, "block-signal"⟩,
     ⟨"list-signal-handling", .nothing, "list-signal-handling"⟩, ⟨"debug", .nothing, "v"⟩,
     ⟨"split-string", .value, "S"⟩, ⟨"help", .nothing, "help"⟩, ⟨"version", .nothing, "version"⟩]
  closing := ["S"]

/-- Steps of an `env`, which may end with a code. -/
abbrev EnvStep := ExceptT Nat Act

namespace EnvStep

def note (text : Octets) : EnvStep Unit := do
  let _ ← World.write 2 text

/-- A note for someone who wants to see each step. -/
def explain (o : EnvOptions) (text : Octets) : EnvStep Unit := if o.explain then note text else return ()

def fail {α : Type} (self line : Octets) : EnvStep α := do
  note (complaint self line)
  throw 125

/-- Complains about how the program is used. -/
def refuse {α : Type} (self line : Octets) : EnvStep α := do
  note (misused 125 self line).err
  throw 125

end EnvStep

open EnvStep

/-! ### Splitting a word -/

/-- A word that is being split. -/
structure Splitting where
  /-- The finished words, the last one first. -/
  words : List Octets := []
  current : List Char := []
  /-- Whether a word has begun. -/
  started : Bool := false

namespace Splitting

def add (s : Splitting) (cs : List Char) : Splitting :=
  { s with current := s.current ++ cs, started := true }

def close (s : Splitting) : Splitting :=
  if s.started then { words := String.ofList s.current :: s.words } else s

end Splitting

/-- The characters that stand for others behind a backslash. -/
def splitEscapes : List (Char × Char) :=
  [('f', '\x0c'), ('n', '\n'), ('r', '\r'), ('t', '\t'), ('v', '\x0b')]

/-- The name of a variable between braces behind a dollar sign, and what follows it. -/
def bracedName? : List Char → Option (Octets × List Char)
  | brace :: cs =>
    let name := cs.takeWhile fun c => c.isAlphanum || c == '_'
    let rest := cs.drop name.length
    if brace.toNat = 0x7B ∧ rest.head?.map Char.toNat = some 0x7D ∧
        name.head?.any (fun c => !c.isDigit) then
      some (String.ofList name, rest.tail)
    else none
  | [] => none

/-- Splits a text at its blanks outside quotes. -/
def splitText (self : Octets) (o : EnvOptions) : (fuel : Nat) → (quote : Option Char) → Splitting → List Char →
    EnvStep (List Octets)
  | 0, _, s, _ => return s.close.words.reverse
  | _ + 1, quote, s, [] =>
    if quote.isSome then fail self "no terminating quote in -S string" else return s.close.words.reverse
  | fuel + 1, quote, s, c :: cs => do
    let single := quote == some singleQuote
    let double := quote == some doubleQuote
    if (c = singleQuote ∧ !double) ∨ (c = doubleQuote ∧ !single) then
      splitText self o fuel (if quote.isSome then none else some c) (s.add []) cs
    else if isSpace c ∧ quote.isNone then splitText self o fuel quote s.close cs
    else if c = '#' ∧ quote.isNone ∧ !s.started then return s.close.words.reverse
    else if c = '\\' ∧ (!single ∨ cs.head? = some '\\' ∨ cs.head? = some singleQuote) then
      match cs with
      | [] => fail self "invalid backslash at end of string in -S"
      | e :: rest =>
        if e = '_' ∧ !double then splitText self o fuel quote s.close rest
        else if e = '_' then splitText self o fuel quote (s.add [' ']) rest
        else if e = 'c' then
          if double then fail self "'\\c' must not appear in double-quoted -S string"
          else return s.close.words.reverse
        else if e = singleQuote ∨ e = doubleQuote ∨ e = '#' ∨ e = '$' ∨ e = '\\' then
          splitText self o fuel quote (s.add [e]) rest
        else match splitEscapes.lookup e with
          | some meant => splitText self o fuel quote (s.add [meant]) rest
          | none => fail self ("invalid sequence '\\" ++ String.ofList [e] ++ "' in -S")
    else if c = '$' ∧ !single then
      match bracedName? cs with
      | none => fail self ("only $\x7bVARNAME\x7d expansion is supported, error at: " ++ String.ofList (c :: cs))
      | some (name, rest) =>
        match (← get).valueOf? name with
        | some value =>
          explain o ("expanding $\x7b" ++ name ++ "\x7d into " ++ quoteArgument o.charset value ++ "\n")
          splitText self o fuel quote (s.add value.toList) rest
        | none =>
          explain o ("replacing $\x7b" ++ name ++ "\x7d with null string\n")
          splitText self o fuel quote s rest
    else splitText self o fuel quote (s.add [c]) cs

def splitWord (self : Octets) (o : EnvOptions) (text : Octets) : EnvStep (List Octets) := do
  let cs := text.toList.dropWhile isSpace
  if cs.isEmpty then return []
  else
    let words ← splitText self o (cs.length + 1) none {} cs
    explain o ("split -S:  " ++ quoteArgument o.charset (String.ofList cs) ++ "\n")
    explain o (String.join (words.zipIdx.map fun (word, i) =>
      (if i = 0 then " into:    " else "     &    ") ++ quoteArgument o.charset word ++ "\n"))
    return words

/-! ### Signals -/

/-- The least and the greatest of the signals that have no meaning of their own. -/
def freeSignals : Nat × Nat := (34, 64)

/-- The numbers of all signals. -/
def signalsOf : List Nat := (List.range (freeSignals.2 + 1)).filter fun n => (1 ≤ n && n ≤ 31) || freeSignals.1 ≤ n

/-- The name of a signal. One without a meaning of its own is named by its distance from the nearer end. -/
def signalTitle (n : Nat) : String :=
  let (least, greatest) := freeSignals
  if n = 29 then "POLL"
  else match Command.Ending.signalName? n with
    | some name => name
    | none =>
      if n = least then "RTMIN"
      else if n = greatest then "RTMAX"
      else if n - least ≤ (greatest - least) / 2 then "RTMIN+" ++ toString (n - least)
      else "RTMAX-" ++ toString (greatest - n)

/-- Second names of signals. -/
def signalNicknames : List (String × Nat) := [("IO", 29), ("IOT", 6), ("CLD", 17)]

/-- The number of a signal by its name in capital letters. -/
def signalNamed? (name : String) : Option Nat :=
  let (least, greatest) := freeSignals
  let number? (cs : List Char) : Option Nat :=
    if !cs.isEmpty && cs.all Char.isDigit then (wholeNumber? (String.ofList cs)).map Int.toNat else none
  let distance? (sign : Char) (cs : List Char) : Option Nat :=
    if cs.isEmpty then some 0 else number? (if cs.head? = some sign then cs.tail else cs)
  match name.toList with
  | 'R' :: 'T' :: 'M' :: 'I' :: 'N' :: cs => (distance? '+' cs).map (least + ·)
  | 'R' :: 'T' :: 'M' :: 'A' :: 'X' :: cs => (distance? '-' cs).bind fun n =>
    if n = 0 ∨ cs.head? = some '-' then some (greatest - n) else none
  | cs =>
    ((signalsOf.find? fun n => signalTitle n == name).or (signalNicknames.lookup name)).or (number? cs)

/-- The number of a signal by its number, by the code of a program that it ended, or by its name. -/
def signalNumber? (word : Octets) : Option Nat :=
  let number :=
    if word.toList.head?.any Char.isDigit then
      (wholeNumber? word).bind fun n =>
        if n < 0x80000000 then some (n.toNat % (if 0xFF ≤ n then 0x100 else 0x80)) else none
    else
      let name := String.ofList (word.toList.map Char.toUpper)
      (signalNamed? name).or
        (if name.startsWith "SIG" then signalNamed? (String.ofList (name.toList.drop 3)) else none)
  number.filter signalsOf.contains

/-- What a list of signals asks for. Without a list all of them are meant, as far as that is possible. -/
def signalUses (self : Octets) (o : EnvOptions) (use : SignalUse) (list : Option Octets) : EnvStep (List (Nat × SignalUse × Bool)) :=
  match list with
  | none => return signalsOf.map fun n => (n, use, true)
  | some list => do
    ((list.splitOn ",").filter (· ≠ "")).mapM fun word => do
      match signalNumber? word with
      | some n => return (n, use, false)
      | none => refuse self (quoteArgument o.charset word ++ ": invalid signal")

/-- What is asked for a signal among some uses. -/
def EnvOptions.use? (o : EnvOptions) (among : List SignalUse) (n : Nat) : Option (SignalUse × Bool) :=
  (o.signals.find? fun s => s.1 == n && among.contains s.2.1).map Prod.snd

/-- Whether a signal always ends or stops a program. -/
def isUnstoppable (n : Nat) : Bool := n == 9 || n == 19

/-- Treats the signals as asked. -/
def treatSignals (self : Octets) (o : EnvOptions) : EnvStep Unit := do
  for n in signalsOf do
    if let some (use, lenient) := o.use? [.default, .ignore] n then
      let impossible := isUnstoppable n
      if impossible && !lenient then
        fail self ("failed to set signal action for signal " ++ toString n ++ ": Invalid argument")
      explain o ("Reset signal " ++ signalTitle n ++ " (" ++ toString n ++ ") to " ++
        (if use = .ignore then "IGNORE" else "DEFAULT") ++
        (if impossible then " (failure ignored)" else "") ++ "\n")
      if !impossible then
        modify fun w => { w with
          ignored := if use = .ignore then n :: w.ignored else w.ignored.filter (· ≠ n) }
  for n in signalsOf do
    if let some (use, _) := o.use? [.block, .unblock] n then
      explain o ("signal " ++ signalTitle n ++ " (" ++ toString n ++ ") mask set to " ++
        (if use = .block then "BLOCK" else "UNBLOCK") ++ "\n")
  if o.listSignals then
    for n in signalsOf do
      let blocked := !isUnstoppable n && (o.use? [.block, .unblock] n).any fun u => u.1 == .block
      let ignored := (← get).ignored.contains n
      if blocked || ignored then
        let name := signalTitle n
        note (name ++ String.ofList (List.replicate (10 - name.length) ' ') ++ " (" ++
          (if n < 10 then " " else "") ++ toString n ++ "): " ++ (if blocked then "BLOCK" else "") ++
          (if blocked && ignored then "," else "") ++ (if ignored then "IGNORE" else "") ++ "\n")

/-! ### The program -/

/-- The options with one more of them, and the words that stand for it. -/
def envOption (self : Octets) (o : EnvOptions) (option : String × Option Octets) :
    EnvStep (EnvOptions × List Octets) := do
  let value := option.2.getD ""
  let signals (use : SignalUse) : EnvStep (EnvOptions × List Octets) := do
    let uses ← signalUses self o use option.2
    let unblocked := if use = .default then uses.map fun u => (u.1, SignalUse.unblock, true) else []
    return ({ o with signals := unblocked ++ uses ++ o.signals }, [])
  match option.1 with
  | "i" => return ({ o with clear := true }, [])
  | "0" => return ({ o with null := true }, [])
  | "v" => return ({ o with explain := true }, [])
  | "u" => return ({ o with unset := o.unset ++ [value] }, [])
  | "C" => return ({ o with directory := some value }, [])
  | "S" => return (o, ← splitWord self o value)
  | "list-signal-handling" => return ({ o with listSignals := true }, [])
  | "default-signal" => signals .default
  | "ignore-signal" => signals .ignore
  | "block-signal" => signals .block
  | "help" | "version" => throw 0
  | blank =>
    note (complaint self ("invalid option -- '" ++ blank ++ "'"))
    refuse self "use -[v]S to pass options in shebang lines"

/-- Reads the options and the words that are left. The words of a split word are read too. -/
def envWords (self : Octets) : (fuel : Nat) → EnvOptions → List Octets → EnvStep (EnvOptions × List Octets)
  | 0, o, args => return (o, args)
  | fuel + 1, o, args => do
    let p := envOptionSet.parse none args
    let (o, words) ← p.options.foldlM (fun (o, words) option => do
      let (o, more) ← envOption self o option
      return (o, words ++ more)) (o, [])
    if let some e := p.fault then refuse self e
    if (p.options.getLast?.map Prod.fst) = some "S" then envWords self fuel o (words ++ p.operands)
    else return (o, p.operands)

/-- Sets variables from words of the form `name=value`, and gives the words behind them. -/
def assignFront (o : EnvOptions) : List Octets → EnvStep (List Octets)
  | [] => return []
  | a :: rest => do
    match a.toList.dropWhile (· != '=') with
    | [] => return a :: rest
    | _ :: value =>
      explain o ("setenv:   " ++ a ++ "\n")
      let name := String.ofList (a.toList.takeWhile (· != '='))
      modify fun w => { w with environment := World.setVariable name (String.ofList value) w.environment }
      assignFront o rest

def unsetAll (self : Octets) (o : EnvOptions) : EnvStep Unit := do
  for name in o.unset do
    explain o ("unset:    " ++ name ++ "\n")
    if name = "" ∨ name.toList.contains '=' then
      fail self ("cannot unset " ++ quoteArgument o.charset name ++ ": Invalid argument")
    modify fun w => { w with environment := World.unsetVariable name w.environment }

/-- Enters the directory that the program is to run in. -/
def enterDirectory (self : Octets) (o : EnvOptions) (directory : Octets) : EnvStep Unit := do
  let w ← get
  explain o ("chdir:    " ++ quoteName o.charset directory ++ "\n")
  let refusal (e : OsError) : EnvStep Unit :=
    fail self ("cannot change directory to " ++ quoteName o.charset directory ++ ": " ++ e.text)
  match w.files.resolve w.here directory with
  | .error e => refusal e
  | .ok path =>
    match w.files.node? path with
    | some .directory => modify fun w => { w with here := path }
    | some _ => refusal .notDirectory
    | none => refusal .noEntry

/-- Starts the program of an `env`. -/
def envStart (start : Start) (self : Octets) (o : EnvOptions) (program : Octets) (args : List Octets) :
    EnvStep Command.Ending := do
  treatSignals self o
  if let some directory := o.directory then enterDirectory self o directory
  explain o ("executing: " ++ program ++ "\n")
  explain o (String.join ((program :: args).zipIdx.map fun (a, i) =>
    "   arg[" ++ toString i ++ "]= " ++ quoteArgument o.charset a ++ "\n"))
  match ← start.byName program args with
  | .ok ending => return ending
  | .error e =>
    note (complaint self (quoteArgument o.charset program ++ ": " ++ e.text))
    if e = .noEntry ∧ program.toList.any isSpace then
      note (complaint self "use -[v]S to pass options in shebang lines")
    throw (if e = .noEntry then 127 else 126)

def envSteps (start : Start) (self : Octets) (args : List Octets) : EnvStep Command.Ending := do
  let (o, words) ← envWords self 64 { charset := (← get).charset } args
  let dash := words.head? == some "-"
  if o.clear || dash then
    explain o "cleaning environ\n"
    modify fun w => { w with environment := [] }
  else unsetAll self o
  let words ← assignFront o (if dash then words.tail else words)
  match words with
  | [] =>
    if o.directory.isSome then refuse self "must specify command with --chdir (-C)"
    let close := if o.null then "\x00" else "\n"
    Printout.deliver 125 self { out := World.environmentText close (← get).environment }
  | program :: args =>
    if o.null then refuse self "cannot specify --null (-0) with command"
    envStart start self o program args

def env (start : Start) : Program := fun self args => do
  match ← (envSteps start self args).run with
  | .ok ending => return ending
  | .error code => return .exited code

end CommandPipeline.Platform.Tool
