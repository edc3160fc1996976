import CommandPipeline.Platform.Options
import CommandPipeline.Platform.Quoting

/-! The program `cat`, which writes what its operands hold, with marks for what cannot be seen. -/
namespace CommandPipeline.Platform.Tool

open Text (Octets)

structure CatOptions where
  numbers : Bool := false
  /-- Empty lines get no number. -/
  onlyFilled : Bool := false
  squeeze : Bool := false
  ends : Bool := false
  tabs : Bool := false
  visible : Bool := false

/-- Whether everything is written as it is. -/
def CatOptions.plain (o : CatOptions) : Bool := !(o.numbers || o.squeeze || o.ends || o.tabs || o.visible)

/-- Where in a line the text ends that has been written. -/
inductive CatPlace where
  | inLine
  /-- At the beginning of a line, behind some empty lines. -/
  | lineStart (empty : Nat)
  deriving DecidableEq

structure CatState where
  place : CatPlace := .lineStart 0
  lines : Nat := 0

/-- The mark of a byte below 128 that cannot be seen. -/
def caretText (n : Nat) : List Char :=
  if n < 32 then ['^', Char.ofNat (n + 64)] else if n = 127 then ['^', '?'] else [Char.ofNat n]

/-- A byte that ends no line. -/
def catChar (o : CatOptions) (c : Char) (next : Option Char) : List Char :=
  if c = '\t' then (if o.tabs then ['^', 'I'] else [c])
  else if o.visible then
    (if c.toNat < 128 then caretText c.toNat else 'M' :: '-' :: caretText (c.toNat - 128))
  else if c = '\r' ∧ next = some '\n' ∧ o.ends then ['^', 'M']
  else [c]

def lineNumber (n : Nat) : List Char :=
  let digits := (toString n).toList
  List.replicate (6 - digits.length) ' ' ++ digits ++ ['\t']

/-- The text as the options ask, and where it ends. -/
def catText (o : CatOptions) : CatState → List Char → List Char × CatState
  | st, [] => ([], st)
  | st, c :: cs =>
    let number (wanted : Bool) : List Char × CatState :=
      if wanted then (lineNumber (st.lines + 1), { st with lines := st.lines + 1 }) else ([], st)
    let (text, st) : List Char × CatState :=
      if c = '\n' then
        let ending := if o.ends then ['$', '\n'] else ['\n']
        match st.place with
        | .inLine => (ending, { st with place := .lineStart 0 })
        | .lineStart n =>
          if o.squeeze && 1 ≤ n then ([], st)
          else
            let (mark, st) := number (o.numbers && !o.onlyFilled)
            (mark ++ ending, { st with place := .lineStart (n + 1) })
      else
        let (mark, st) := number (o.numbers && st.place != .inLine)
        (mark ++ catChar o c cs.head?, { st with place := .inLine })
    let (rest, st) := catText o st cs
    (text ++ rest, st)

/-! ### The program -/

def catOptionSet : OptionSet where
  flags := "bensuvtAET".toList
  words := [⟨"number-nonblank", .nothing, "b"⟩, ⟨"number", .nothing, "n"⟩, ⟨"squeeze-blank", .nothing, "s"⟩,
    ⟨"show-nonprinting", .nothing, "v"⟩, ⟨"show-ends", .nothing, "E"⟩, ⟨"show-tabs", .nothing, "T"⟩,
    ⟨"show-all", .nothing, "A"⟩, ⟨"help", .nothing, "help"⟩, ⟨"version", .nothing, "version"⟩]
  anywhere := true

def catOptions (p : Parsed) : CatOptions where
  numbers := p.has "n" || p.has "b"
  onlyFilled := p.has "b"
  squeeze := p.has "s"
  ends := p.has "E" || p.has "A" || p.has "e"
  tabs := p.has "T" || p.has "A" || p.has "t"
  visible := p.has "v" || p.has "A" || p.has "e" || p.has "t"

/-- Whether something is left to read from the file that the output goes into. -/
def feedsItself (w : World) (descriptor : Nat) : Bool :=
  match w.channel? descriptor, w.channel? 1 with
  | some (.file p position _), some (.file q _ _) =>
    let size := match w.files.node? p with
      | some (.file bytes _) => bytes.length
      | _ => 0
    p == q && position < size
  | _, _ => false

/-- Writes what can be read from a descriptor, or says why it cannot. -/
def catDescriptor (o : CatOptions) (descriptor : Nat) (st : CatState) : Act (Except String CatState) := do
  if feedsItself (← get) descriptor then return .error "input file is output file"
  match ← World.readAll descriptor with
  | .error e => return .error e.text
  | .ok text =>
    let (text, st) := if o.plain then (text, st) else
      let (cs, st) := catText o st text.toList
      (String.ofList cs, st)
    match ← World.write 1 text with
    | none => return .ok st
    | some e => return .error ("write error: " ++ e.text)

/-- A descriptor that nothing else uses. -/
def spareDescriptor : Nat := 1000

def catOperand (o : CatOptions) (path : Octets) (st : CatState) : Act (Except String CatState) := do
  if path = "-" then catDescriptor o 0 st
  else match ← World.openFile .read path with
    | .error e => return .error e.text
    | .ok n =>
      modify (World.connect spareDescriptor n)
      let r ← catDescriptor o spareDescriptor st
      modify (World.disconnect spareDescriptor)
      return r

/-- Goes through the operands, and gives the code to end with. -/
def catOperands (self : Octets) (o : CatOptions) : List Octets → CatState → (code : Nat) → Act Nat
  | [], _, code => return code
  | path :: rest, st, code => do
    match ← catOperand o path st with
    | .ok st => catOperands self o rest st code
    | .error e =>
      if "write error".toList.isPrefixOf e.toList then
        let _ ← World.write 2 (complaint self e)
        return 1
      else
        let _ ← World.write 2 (complaint self (showName (← get).charset path ++ ": " ++ e))
        catOperands self o rest st 1

def cat : Program := withOptions 1 catOptionSet fun self p => do
  if ((← get).stream? 1).isNone then
    let _ ← World.write 2 (complaint self ("standard output: " ++ OsError.badDescriptor.text))
    return .exited 1
  let operands := if p.operands.isEmpty then ["-"] else p.operands
  let code ← catOperands self (catOptions p) operands {} 0
  if operands.contains "-" && ((← get).stream? 0).isNone then
    let _ ← World.write 2 (complaint self "closing standard input: Bad file descriptor")
    return .exited 1
  else return .exited code

end CommandPipeline.Platform.Tool
