import CommandPipeline.Platform.Layout
import CommandPipeline.Platform.Options
import CommandPipeline.Platform.Quoting

/-! The program `seq`, which counts from one number to another. The texts of its operands decide how
many decimal places and how many digits it writes. -/
namespace CommandPipeline.Platform.Tool

open Text (Octets)

/-! ### Operands -/

structure SeqOperand where
  value : Quantity
  /-- How many characters the number takes in decimal notation. -/
  width : Int := 0
  /-- Its decimal places, if it is known how many there are. -/
  places : Option Nat := some 0

/-- The width and the places of a decimal number, of which the power behind the letter e moves the
point. -/
def decimalShape (text : List Char) : Int × Nat :=
  let whole := text.takeWhile (· != '.')
  let pointed := whole.length < text.length
  let isMark (c : Char) : Bool := c == 'e' || c == 'E'
  let fraction := ((text.drop (whole.length + 1)).takeWhile fun c => !isMark c).length
  let width : Int := text.length
  let width := if !pointed then width else width +
    (if fraction = 0 then -1 else if whole.getLast?.any Char.isDigit then 0 else 1)
  let mantissa := text.takeWhile fun c => !isMark c
  if mantissa.length = text.length then (width, fraction)
  else
    let (power, _) := exponent 'e' 'E' (text.drop mantissa.length)
    let width := width - (text.length - mantissa.length : Nat)
    if power < 0 then
      let width := if !pointed || mantissa.getLast? == some '.' then width + 1 else width
      (width - power, fraction + power.natAbs)
    else
      let places := fraction - min fraction power.toNat
      let width := if pointed && places == 0 && 0 < fraction then width - 1 else width
      (width + (power.toNat - min fraction power.toNat : Nat), places)

/-- Reads an operand, or says what is wrong with it. -/
def seqOperand (charset : Charset) (arg : Octets) : Except String SeqOperand :=
  let invalid (what : String) : Except String SeqOperand :=
    .error ("invalid " ++ what ++ ": " ++ quoteArgument charset arg)
  match FloatFormat.extended.read? arg.toList with
  | none => invalid "floating point argument"
  | some r =>
    if !r.rest.isEmpty || r.beyond && r.value != .finite false 0 && r.value != .finite true 0 then
      invalid "floating point argument"
    else match r.value with
      | .notNumber _ => invalid (quoteArgument charset "not-a-number" ++ " argument")
      | .infinite _ => .ok { value := r.value }
      | .finite _ _ =>
        let text := arg.toList.dropWhile fun c => isSpace c || c == '+'
        if text.any fun c => c == 'x' || c == 'X' then
          .ok { value := r.value, places := if text.any fun c => c == '.' || c == 'p' then none else some 0 }
        else
          let (width, places) := decimalShape text
          .ok { value := r.value, width, places := some places }

/-! ### Formats -/

/-- How a number is written: a conversion with text around it. -/
structure SeqFormat where
  before : List Char := []
  layout : Layout
  letter : Char
  behind : List Char := []

namespace SeqFormat

def number (f : SeqFormat) (q : Quantity) : List Char := f.layout.quantity .extended f.letter q

def text (f : SeqFormat) (q : Quantity) : Octets := String.ofList (f.before ++ f.number q ++ f.behind)

/-- The text up to a conversion, with its double percent signs made single ones, and what follows. -/
def plainText : List Char → List Char × List Char
  | '%' :: '%' :: cs =>
    let (text, rest) := plainText cs
    ('%' :: text, rest)
  | '%' :: cs => ([], '%' :: cs)
  | c :: cs =>
    let (text, rest) := plainText cs
    (c :: text, rest)
  | [] => ([], [])

def takeFlags (l : Layout) : List Char → Layout × List Char
  | [] => (l, [])
  | c :: cs =>
    if "-+#0 ".toList.contains c || c == singleQuote then takeFlags (l.withFlag c) cs else (l, c :: cs)

/-- Reads a format with one conversion. -/
def read (charset : Charset) (format : Octets) : Except String SeqFormat :=
  let wrong (what : String) : Except String SeqFormat :=
    .error ("format " ++ quoteArgument charset format ++ " " ++ what)
  match plainText format.toList with
  | (before, '%' :: cs) =>
    let (l, cs) := takeFlags {} cs
    let (width, cs) := takeDigits 10 decimalValue? cs.length cs 0
    let (precision, cs) : Option Nat × List Char :=
      if cs.head? = some '.' then
        let (n, rest) := takeDigits 10 decimalValue? cs.length cs.tail 0
        (some n, rest)
      else (none, cs)
    match (if cs.head? = some 'L' then cs.tail else cs) with
    | [] => wrong "ends in %"
    | letter :: cs =>
      if !"efgaEFGA".toList.contains letter then
        wrong ("has unknown %" ++ String.ofList [letter] ++ " directive")
      else match plainText cs with
        | (behind, []) => .ok { before, layout := { l with width, precision }, letter, behind }
        | _ => wrong "has too many % directives"
  | _ => wrong "has no % directive"

/-- The format that shows all places of the numbers. -/
def ofOperands (equalWidth : Bool) (first step last : SeqOperand) : SeqFormat :=
  match first.places, step.places, last.places with
  | some p, some q, some r =>
    let places := max p q
    let point (has : Bool) : Int := if has then 1 else 0
    let firstWidth := first.width + (places - p : Nat) + point (p == 0 && 0 < places)
    let lastWidth := last.width + ((places : Int) - r) - point (0 < r && places == 0) +
      point (r == 0 && 0 < places)
    let width := if equalWidth then (max firstWidth lastWidth).toNat else 0
    { layout := { zero := equalWidth, width, precision := some places }, letter := 'f' }
  | _, _, _ => { layout := {}, letter := 'g' }

end SeqFormat

/-! ### Counting -/

def ofRat (x : Rat) : Quantity := (FloatFormat.extended.round (x.num < 0) x.num.natAbs x.den).1

/-- The numbers that come after `before`, of which the first is `first + i * step`. A number just past
the end counts if it is written like the end. -/
def seqTexts (f : SeqFormat) (first step last : Rat) : (fuel : Nat) → (i : Nat) → (before : Octets) → List Octets
  | 0, _, _ => []
  | fuel + 1, i, before =>
    let x := ofRat (first + (ofRat (i * step)).toRat)
    let past : Bool := if step < 0 then x.toRat < last else last < x.toRat
    if past then
      match FloatFormat.extended.read? (f.number x) with
      | some ⟨value, _, []⟩ => if value.toRat = last ∧ f.text x ≠ before then [f.text x] else []
      | _ => []
    else f.text x :: seqTexts f first step last fuel (i + 1) (f.text x)

/-- The whole numbers from `first` to `last`. -/
def wholeTexts (first step last : Nat) : List Octets :=
  if last < first ∨ step = 0 then []
  else (List.range ((last - first) / step + 1)).map fun i => toString (first + i * step)

def joined (separator : Octets) (texts : List Octets) : Octets :=
  if texts.isEmpty then "" else separator.intercalate texts ++ "\n"

structure SeqOptions where
  format : Option Octets := none
  separator : Octets := "\n"
  equalWidth : Bool := false

/-- Whether whole numbers are written as they are. -/
def SeqOptions.plain (o : SeqOptions) : Bool := o.format.isNone && !o.equalWidth && o.separator.length == 1

/-- A whole number that is written in digits alone. -/
def digitNumber? (s : Octets) : Option Nat :=
  match digits? 10 decimalValue? s.toList with
  | some (n, []) => some n
  | _ => none

/-- Counts by whole numbers alone, without rounding, if the operands allow it. -/
def plainCount? (o : SeqOptions) (first step last : Octets) : Option Octets := do
  let m ← digitNumber? first
  let k ← digitNumber? step
  let n ← digitNumber? last
  if o.plain && 0 < k && k ≤ 200 then some (joined o.separator (wholeTexts m k n)) else none

/-- Whether a number takes part in counting by whole numbers alone. -/
def isPlainWhole (o : SeqOperand) : Bool :=
  match o.value with
  | .finite negative x => o.places == some 0 && !negative && x.den == 1
  | _ => false

/-- Whether a quantity is below another one. -/
def quantityBelow : Quantity → Quantity → Bool
  | .finite m x, .finite n y => (if m then -x else x) < (if n then -y else y)
  | .infinite true, .infinite n => !n
  | .infinite true, .finite .. => true
  | .finite .., .infinite n => !n
  | _, _ => false

/-- The numbers from `first` on. An infinite step leads past the last one at once; nothing is said of
numbers that do not end. -/
def countText (o : SeqOptions) (format : Option SeqFormat) (first step last : SeqOperand) : Octets :=
  let f := format.getD (.ofOperands o.equalWidth first step last)
  let (x, k, y) := (first.value.toRat, step.value.toRat, last.value.toRat)
  let falls := match step.value with
    | .finite negative _ | .infinite negative | .notNumber negative => negative
  if if falls then quantityBelow first.value last.value else quantityBelow last.value first.value then ""
  else match first.value, step.value, last.value with
    | .finite _ _, .finite _ _, .finite _ _ =>
      if o.plain && k ≤ 200 && [first, step, last].all isPlainWhole then
        joined o.separator (wholeTexts x.num.toNat k.num.toNat y.num.toNat)
      else
        let count := ((y - x) / k).floor.toNat + 3
        joined o.separator (f.text first.value :: seqTexts f x k y count 1 (f.text first.value))
    | .finite _ _, .infinite _, .finite _ _ => f.text first.value ++ "\n"
    | _, _, _ => ""

/-! ### The program -/

/-- A complaint, and whether it is about how the program is used. -/
abbrev SeqFault := String × Bool

def usageFault {α : Type} : Except String α → Except SeqFault α := Except.mapError fun line => (line, true)

def seqNumbers (charset : Charset) (o : SeqOptions) (first step last : Octets) : Except SeqFault Octets := do
  let format ← (o.format.mapM (SeqFormat.read charset)).mapError fun line => (line, false)
  if o.format.isSome && o.equalWidth then
    .error ("format string may not be specified when printing equal width strings", true)
  else match plainCount? o first step last with
    | some text => .ok text
    | none =>
      let a ← usageFault (seqOperand charset first)
      let k ← usageFault (seqOperand charset step)
      if k.value = .finite false 0 ∨ k.value = .finite true 0 then
        .error ("invalid Zero increment value: " ++ quoteArgument charset step, true)
      else return countText o format a k (← usageFault (seqOperand charset last))

def seqText (charset : Charset) (o : SeqOptions) : List Octets → Except SeqFault Octets
  | [] => .error ("missing operand", true)
  | [last] => seqNumbers charset o "1" "1" last
  | [first, last] => seqNumbers charset o first "1" last
  | [first, step, last] => seqNumbers charset o first step last
  | _ :: _ :: _ :: extra :: _ => .error ("extra operand " ++ quoteArgument charset extra, true)

def seqOptionSet : OptionSet where
  flags := ['w']
  valued := ['f', 's']
  words := [⟨"equal-width", .nothing, "w"⟩, ⟨"format", .value, "f"⟩, ⟨"separator", .value, "s"⟩,
    ⟨"help", .nothing, "help"⟩, ⟨"version", .nothing, "version"⟩]
  isOperand w := match w.toList with
    | '-' :: c :: _ => c == '.' || c.isDigit
    | _ => false

def seq : Program := withOptions 1 seqOptionSet fun self p => do
  let o : SeqOptions := {
    format := p.value? "f", separator := (p.value? "s").getD "\n", equalWidth := p.has "w" }
  let printout : Printout := match seqText (← get).charset o p.operands with
    | .ok text => { out := text }
    | .error (line, true) => misused 1 self line
    | .error (line, false) => complains 1 self line
  printout.deliver 1 self

end CommandPipeline.Platform.Tool
