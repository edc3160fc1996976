import CommandPipeline.Platform.Escape
import CommandPipeline.Platform.Layout
import CommandPipeline.Platform.Shell.Session

/-! The builtin commands `echo` and `printf`. -/
namespace CommandPipeline.Platform.Shell

open Text (Octets)

/-! ### Echo -/

/-- The escapes of arguments. -/
def argumentEscapes : EscapeSet := { leadingZero := true }

/-- The escapes of formats, which nothing ends. -/
def formatEscapes : EscapeSet := { stop := false }

/-- The words with blanks between them and a text behind them. A word may end all output early. -/
def echoText (close : Octets) : List Octets → Octets
  | [] => close
  | word :: rest =>
    let (text, stopped) := argumentEscapes.replace word
    String.ofList text ++
      if stopped then "" else if rest.isEmpty then close else " " ++ echoText close rest

def runEcho (words : List Octets) : Step Nat := do
  match words with
  | "-n" :: rest => Step.say (echoText "" rest)
  | words => Step.say (echoText "\n" words)
  return 0

/-! ### Printf -/

structure Formatting where
  arguments : List Octets
  /-- Whether an argument has been taken. -/
  taken : Bool := false
  status : Nat := 0

abbrev Format := StateT Formatting Step

namespace Format

def write (cs : List Char) : Format Unit := Step.say (String.ofList cs)

def argument? : Format (Option Octets) := do
  match (← get).arguments with
  | [] => return none
  | a :: rest =>
    modify fun f => { f with arguments := rest, taken := true }
    return some a

/-- Takes a number, with a warning if an argument is not all of one. -/
def number {α : Type} (zero : α) (ofNat : Nat → α) (read? : List Char → Option (Read α)) : Format α := do
  match ← argument? with
  | none => return zero
  | some a =>
    let warn (text : String) : Format Unit := do
      Step.warn (a ++ ": " ++ text)
      modify fun f => { f with status := 1 }
    match a.toList with
    | quote :: cs =>
      if quote.toNat = 0x22 ∨ quote.toNat = 0x27 then return ofNat (cs.head?.elim 0 Char.toNat)
      else match read? a.toList with
        | none =>
          warn "expected numeric value"
          return zero
        | some r =>
          if !r.rest.isEmpty then warn "not completely converted"
          else if r.beyond then warn "Numerical result out of range"
          return r.value
    | [] => return zero

def integer (signed : Bool) : Format Int := number 0 (fun n => (n : Int)) (readInteger? signed natural?)

def quantity : Format Quantity :=
  number (.finite false 0) (fun n => .finite false n) FloatFormat.double.read?

/-- A width or a precision: digits, or an argument behind a star. -/
def measure (cs : List Char) : Format (Int × List Char) := do
  match cs with
  | '*' :: rest => return ((← integer true).bmod UInt32.size, rest)
  | cs =>
    let (n, rest) := takeDigits 10 decimalValue? cs.length cs 0
    return (n, rest)

/-- The layout of a conversion, and what follows it. -/
def layout (cs : List Char) : Format (Layout × List Char) := do
  let flags := cs.takeWhile "#-+ 0".toList.contains
  let l := flags.foldl Layout.withFlag {}
  let (width, rest) ← measure (cs.drop flags.length)
  let l := { l with width := width.natAbs, left := l.left || width < 0 }
  match rest with
  | '.' :: rest =>
    let (precision, rest) ← measure rest
    return ({ l with precision := if precision < 0 then none else some precision.toNat }, rest)
  | rest => return (l, rest)

/-- Writes an argument as the letter of a conversion asks, and tells whether that was the end of all
output. The text of the conversion stands in complaints. -/
def convert (l : Layout) (letter : Char) (text : List Char) : Format Bool := do
  match letter with
  | 'b' =>
    let (cs, ends) := argumentEscapes.replace ((← argument?).getD "")
    write (l.text cs)
    return ends
  | 's' => write (l.text ((← argument?).getD "").toList)
  | 'c' => write (l.pad [((← argument?).getD "").toList.head?.getD (Char.ofNat 0)])
  | 'd' | 'i' => write (l.signed (← integer true))
  | 'o' | 'u' | 'x' | 'X' => write (l.unsigned letter (← integer false).toNat)
  | 'a' | 'A' | 'e' | 'E' | 'f' | 'F' | 'g' | 'G' => write (l.quantity .double letter (← quantity))
  | _ => Step.fail (String.ofList text ++ ": invalid directive")
  return false

/-- Goes through a format once, and tells whether all output has ended. A backslash that begins no escape
stands for itself. -/
def pass : (fuel : Nat) → List Char → Format Bool
  | 0, _ | _ + 1, [] => return false
  | fuel + 1, c :: cs => do
    if c = '\\' then
      let r := formatEscapes.escape cs
      let isKnown := r.text.length = 1
      write (if isKnown then r.text else [c])
      pass fuel (if isKnown then r.rest else cs)
    else if c = '%' ∧ cs.head? ≠ some '%' then
      let (l, rest) ← layout cs
      match rest with
      | [] => Step.fail "missing format character"
      | letter :: rest =>
        if ← convert l letter (c :: cs.take (cs.length - rest.length)) then return true else pass fuel rest
    else
      write [c]
      pass fuel (if c = '%' then cs.tail else cs)

/-- Goes through a format until the arguments are used up or none is taken any more. -/
def passes (format : List Char) : (fuel : Nat) → Format Unit
  | 0 => return ()
  | fuel + 1 => do
    let ends ← pass (format.length + 1) format
    let f ← get
    if !ends ∧ f.taken ∧ !f.arguments.isEmpty then passes format fuel

end Format

def runPrintf (words : List Octets) : Step Nat := do
  let (_, words) ← Step.readOptions "" words
  match words with
  | [] => Step.fail "usage: printf format [arg ...]"
  | format :: arguments =>
    let (_, f) ← (Format.passes format.toList (arguments.length + 1)).run { arguments }
    return f.status

end CommandPipeline.Platform.Shell
