import CommandPipeline.Platform.Escape
import CommandPipeline.Platform.Layout
import CommandPipeline.Platform.Quoting

/-! The program `printf`, which writes its arguments as a format asks. The format is used again until
no argument is left. -/
namespace CommandPipeline.Platform.Tool

open Text (Octets)

/-- What `printf` has written so far and what it still has to read. -/
structure PrintfState where
  out : Octets := ""
  err : Octets := ""
  args : List Octets
  /-- How many arguments have been taken. -/
  taken : Nat := 0
  code : Nat := 0

/-- Steps of a `printf`, any of which may be the last one. -/
abbrev Printing := ExceptT Unit (StateM PrintfState)

/-- What a `printf` knows besides its arguments. -/
structure PrintfFrame where
  self : Octets
  charset : Charset
  isStrict : Bool

namespace Printing

def write (cs : List Char) : Printing Unit := modify fun st => { st with out := st.out ++ String.ofList cs }

def warn (f : PrintfFrame) (line : Octets) : Printing Unit :=
  modify fun st => { st with err := st.err ++ complaint f.self line }

def complain (f : PrintfFrame) (line : Octets) : Printing Unit := do
  warn f line
  modify fun st => { st with code := 1 }

/-- Complains and ends. -/
def fail {α : Type} (f : PrintfFrame) (line : Octets) : Printing α := do
  complain f line
  throw ()

def takeArgument? : Printing (Option Octets) := do
  match (← get).args with
  | [] => return none
  | a :: rest =>
    modify fun st => { st with args := rest, taken := st.taken + 1 }
    return some a

end Printing

open Printing

/-! ### Escapes -/

def printfEscapes : EscapeSet := { hex := true, quote := true }

/-- A character by its number, which is written as an escape if the character set does not have it. -/
def unicodeText (charset : Charset) (n : Nat) : List Char :=
  if n < 0x80 then [Char.ofNat n]
  else if charset = .utf8 ∧ n < 0x110000 then (Octets.ofText (String.ofList [Char.ofNat n])).toList
  else
    let (letter, width) := if n < 0x10000 then ('u', 4) else ('U', 8)
    let digits := (Nat.toDigits 16 n).map Char.toUpper
    '\\' :: letter :: List.replicate (width - digits.length) '0' ++ digits

/-- Whether an escape may name the character of a number: none of ASCII but three signs, and no control
character or half of a pair. -/
def canName (n : Nat) : Bool :=
  if n < 0xA0 then n = 0x24 || n = 0x40 || n = 0x60 else n < 0xD800 || 0xDFFF < n

/-- Writes the character of a number in `width` hexadecimal digits, and gives what follows them. -/
def printUnicode (f : PrintfFrame) (letter : Char) (width : Nat) (cs : List Char) : Printing (List Char) := do
  if (cs.take width).length < width || !(cs.take width).all fun c => (hexValue? c).isSome then
    fail f "missing hexadecimal number in escape"
  else
    let (n, rest) := takeDigits 16 hexValue? width cs 0
    if !canName n then
      let digits := Nat.toDigits 16 n
      fail f ("invalid universal character name \\" ++ String.ofList
        (letter :: List.replicate (width - digits.length) '0' ++ digits))
    else
      write (unicodeText f.charset n)
      return rest

/-- Writes what an escape stands for, and gives what follows it. -/
def printEscape (f : PrintfFrame) (e : EscapeSet) (cs : List Char) : Printing (List Char) := do
  match cs with
  | 'x' :: rest =>
    if (rest.head?.bind hexValue?).isNone then fail f "missing hexadecimal number in escape"
    else
      let r := e.escape cs
      write r.text
      return r.rest
  | 'u' :: rest => printUnicode f 'u' 4 rest
  | 'U' :: rest => printUnicode f 'U' 8 rest
  | cs =>
    let r := e.escape cs
    write r.text
    if r.ends then
      modify fun st => { st with code := 0 }
      throw ()
    else return r.rest

/-- Writes an argument with its escapes replaced. -/
def printEscapes (f : PrintfFrame) : (fuel : Nat) → List Char → Printing Unit
  | 0, _ | _ + 1, [] => return ()
  | fuel + 1, c :: cs => do
    if c = '\\' then
      let rest ← printEscape f { printfEscapes with leadingZero := true } cs
      printEscapes f fuel rest
    else
      write [c]
      printEscapes f fuel cs

/-! ### Numbers -/

/-- The number of the character behind a quote, and what follows it. -/
def characterNumber? (charset : Charset) (cs : List Char) : Option (Nat × List Char) :=
  match cs with
  | quote :: c :: rest =>
    if quote ≠ singleQuote ∧ quote ≠ doubleQuote then none
    else match charset, characters charset (String.ofList (c :: rest)) with
      | .utf8, unit :: units =>
        let whole := if unit.length = 1 then c else (Octets.toText unit).toList.headD c
        some (whole.toNat, (String.join units).toList)
      | _, _ => some (c.toNat, rest)
  | _ => none

/-- Takes a number from the arguments, with a complaint if it is not all of one. -/
def takeNumber {α : Type} (f : PrintfFrame) (zero : α) (ofNat : Nat → α)
    (read? : List Char → Option (Read α)) : Printing α := do
  match ← takeArgument? with
  | none => return zero
  | some a =>
    match characterNumber? f.charset a.toList with
    | some (n, rest) =>
      if !rest.isEmpty && !f.isStrict then
        warn f ("warning: " ++ String.ofList rest ++
          ": character(s) following character constant have been ignored")
      return ofNat n
    | none =>
      match read? a.toList with
      | none =>
        if a ≠ "" then complain f (quoteArgument f.charset a ++ ": expected a numeric value")
        return zero
      | some r =>
        if r.beyond then complain f (quoteArgument f.charset a ++ ": Numerical result out of range")
        else if !r.rest.isEmpty then
          complain f (quoteArgument f.charset a ++ ": value not completely converted")
        return r.value

def takeInteger (f : PrintfFrame) (signed : Bool) : Printing Int :=
  takeNumber f 0 (fun n => (n : Int)) (readInteger? signed natural?)

def takeQuantity (f : PrintfFrame) : Printing Quantity :=
  takeNumber f (.finite false 0) (fun n => .finite false n) FloatFormat.extended.read?

/-! ### Conversions -/

/-- A conversion while it is read: its layout, and the letters that its flags leave it. -/
structure Directive where
  layout : Layout := {}
  letters : List Char := "aAcdeEfFgGiosuxX".toList

def Directive.without (d : Directive) (letters : List Char) : Directive :=
  { d with letters := d.letters.filter fun c => !letters.contains c }

def Directive.flags (d : Directive) : List Char → Directive × List Char
  | [] => (d, [])
  | c :: cs =>
    if c = singleQuote ∨ c = 'I' then flags (d.without "aAceEosxX".toList) cs
    else if c = '-' ∨ c = '+' ∨ c = ' ' then flags { d with layout := d.layout.withFlag c } cs
    else if c = '#' then flags ({ d with layout := d.layout.withFlag c }.without "cdisu".toList) cs
    else if c = '0' then flags ({ d with layout := d.layout.withFlag c }.without "cs".toList) cs
    else (d, c :: cs)

def takeBounded (f : PrintfFrame) (what : String) (low : Int) : Printing Int := do
  let a := (← get).args.head?.getD ""
  let n ← takeInteger f true
  if (n < low ∧ n < 0) ∨ 0x80000000 ≤ n then fail f ("invalid " ++ what ++ ": " ++ quoteArgument f.charset a)
  else return n

def Directive.width (f : PrintfFrame) (d : Directive) (cs : List Char) : Printing (Directive × List Char) := do
  match cs with
  | '*' :: rest =>
    let n ← takeBounded f "field width" (-0x80000000)
    return ({ d with layout := { d.layout with width := n.natAbs, left := d.layout.left || n < 0 } }, rest)
  | cs =>
    let (n, rest) := takeDigits 10 decimalValue? cs.length cs 0
    return ({ d with layout := { d.layout with width := n } }, rest)

def Directive.precision (f : PrintfFrame) (d : Directive) (cs : List Char) :
    Printing (Directive × List Char) := do
  match cs with
  | '.' :: '*' :: rest =>
    let n ← takeBounded f "precision" (-0x8000000000000000)
    let precision := if n < 0 then none else some n.toNat
    return ({ d with layout := { d.layout with precision } }.without ['c'], rest)
  | '.' :: rest =>
    let (n, rest) := takeDigits 10 decimalValue? rest.length rest 0
    return ({ d with layout := { d.layout with precision := some n } }.without ['c'], rest)
  | cs => return (d, cs)

/-- Writes an argument as a letter asks. -/
def convert (f : PrintfFrame) (l : Layout) (letter : Char) : Printing Unit := do
  match letter with
  | 's' => write (l.text ((← takeArgument?).getD "").toList)
  | 'c' => write (l.pad [((← takeArgument?).getD "").toList.head?.getD (Char.ofNat 0)])
  | 'd' | 'i' => write (l.signed (← takeInteger f true))
  | 'u' | 'o' | 'x' | 'X' => write (l.unsigned letter (← takeInteger f false).toNat)
  | _ => write (l.quantity .extended letter (← takeQuantity f))

/-- Performs a conversion behind its percent sign, and gives what follows it. -/
def printDirective (f : PrintfFrame) (cs : List Char) : Printing (List Char) := do
  match cs with
  | '%' :: rest =>
    write ['%']
    return rest
  | 'b' :: rest =>
    let a := (← takeArgument?).getD ""
    printEscapes f (a.length + 1) a.toList
    return rest
  | 'q' :: rest =>
    if let some a ← takeArgument? then write (showName f.charset a).toList
    return rest
  | cs =>
    let (d, rest) := Directive.flags {} cs
    let (d, rest) ← d.width f rest
    let (d, rest) ← d.precision f rest
    let rest := rest.dropWhile "lLhjtz".toList.contains
    let letter := rest.head?.getD (Char.ofNat 0)
    if d.letters.contains letter then
      convert f d.layout letter
      return rest.tail
    else
      fail f ("%" ++ String.ofList (cs.take (cs.length - rest.length + 1)) ++ ": invalid conversion specification")

/-- Goes through a format once. -/
def formatPass (f : PrintfFrame) : (fuel : Nat) → List Char → Printing Unit
  | 0, _ | _ + 1, [] => return ()
  | fuel + 1, c :: cs => do
    if c = '\\' then
      let rest ← printEscape f printfEscapes cs
      formatPass f fuel rest
    else if c = '%' then
      let rest ← printDirective f cs
      formatPass f fuel rest
    else
      write [c]
      formatPass f fuel cs

/-- Goes through a format until the arguments are used up or none is taken any more. -/
def formatPasses (f : PrintfFrame) (format : List Char) : (passes : Nat) → Printing Unit
  | 0 => return ()
  | passes + 1 => do
    let before := (← get).taken
    formatPass f (format.length + 1) format
    let st ← get
    if before < st.taken ∧ !st.args.isEmpty then formatPasses f format passes
    else if let some a := st.args.head? then
      warn f ("warning: ignoring excess arguments, starting with " ++ quoteArgument f.charset a)

def printf : Program := fun self args => do
  match (if args.head? = some "--" then args.tail else args) with
  | [] => (misused 1 self "missing operand").deliver 1 self
  | format :: args =>
    let w ← get
    let f : PrintfFrame := { self, charset := w.charset, isStrict := w.isStrict }
    let (_, st) := (formatPasses f format.toList (args.length + 1)).run { args }
    Printout.deliver 1 self { code := st.code, out := st.out, err := st.err }

end CommandPipeline.Platform.Tool
