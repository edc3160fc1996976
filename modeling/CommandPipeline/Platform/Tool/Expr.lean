import CommandPipeline.Platform.Numeral
import CommandPipeline.Platform.Quoting
import CommandPipeline.Platform.Tool.PatternText

/-! The program `expr`, which computes with numbers and texts. It takes each byte of its arguments as
a character, unless the character set joins them. -/
namespace CommandPipeline.Platform.Tool

open Text (Octets)

/-! ### Characters -/

/-- An argument as text, in which each character of the character set is one. -/
def inCharset (charset : Charset) (arg : Octets) : String :=
  match charset with
  | .ascii => arg
  | .utf8 => arg.toText

/-- The bytes of a text of the character set. -/
def fromCharset (charset : Charset) (s : String) : Octets :=
  match charset with
  | .ascii => s
  | .utf8 => Octets.ofText s

/-- A word between quotes. -/
def quoteWord (charset : Charset) (s : String) : Octets := quoteArgument charset (fromCharset charset s)

/-! ### Values -/

/-- A complaint of `expr`. -/
abbrev ExprResult (α : Type) := Except String α

/-- A value that counts as false: nothing or a zero. -/
def isNullValue (s : String) : Bool :=
  s = "" || wholeNumber? s == some 0

def truthValue (b : Bool) : String := if b then "1" else "0"

def integerOf (s : String) : ExprResult Int :=
  match wholeNumber? s with
  | some n => .ok n
  | none => .error "non-integer argument"

/-- Compares numbers as numbers and other texts in the order of their characters. -/
def compareValues (operator a b : String) : String :=
  let (lt, eq) := match wholeNumber? a, wholeNumber? b with
    | some m, some n => (decide (m < n), decide (m = n))
    | _, _ => (decide (a < b), decide (a = b))
  truthValue (match operator with
    | "<" => lt
    | "<=" => lt || eq
    | "=" => eq
    | "==" => eq
    | "!=" => !eq
    | ">=" => !lt
    | _ => !lt && !eq)

def combineIntegers (operator a b : String) : ExprResult String := do
  let m ← integerOf a
  let n ← integerOf b
  match operator with
  | "+" => .ok (toString (m + n))
  | "-" => .ok (toString (m - n))
  | "*" => .ok (toString (m * n))
  | "/" => if n = 0 then .error "division by zero" else .ok (toString (m.tdiv n))
  | _ => if n = 0 then .error "division by zero" else .ok (toString (m.tmod n))

/-! ### Functions of texts -/

/-- What the first group of a pattern matched, or how much a pattern without groups matched. -/
def matchValue (charset : Charset) (text pattern : String) : ExprResult String :=
  match Pattern.parse charset pattern.toList with
  | .error e => .error e.message
  | .ok (p, groups) =>
    match p.longest? charset text.toList with
    | none => .ok (if groups = 0 then "0" else "")
    | some m => .ok (if groups = 0 then toString m.length else String.ofList m.first)

/-- The part of a text from a position, which counts from one. -/
def substringValue (text position length : String) : String :=
  match wholeNumber? position, wholeNumber? length with
  | some p, some n =>
    if p ≤ 0 ∨ n ≤ 0 then "" else String.ofList ((text.toList.drop (p.toNat - 1)).take n.toNat)
  | _, _ => ""

/-- The first position of a text, from one, at which one of the characters stands. -/
def indexValue (text chars : String) : String :=
  match text.toList.findIdx? fun c => chars.toList.contains c with
  | some i => toString (i + 1)
  | none => "0"

/-! ### Expressions

An expression is read and computed at the same time. What cannot count any more is read alone: its
values are not computed. -/

/-- The words that are left, and the one before them. -/
structure ExprInput where
  before : String
  words : List String

/-- A reader of an expression, which `counts` tells whether to compute. -/
abbrev ExprReader := (counts : Bool) → StateT ExprInput (Except String) String

namespace ExprReader

def complain {α : Type} (charset : Charset) (text : String) (word : String) : StateT ExprInput (Except String) α :=
  throw ("syntax error: " ++ text ++ " " ++ quoteWord charset word)

/-- Takes the next word. -/
def next (charset : Charset) : StateT ExprInput (Except String) String := do
  match (← get).words with
  | [] => complain charset "missing argument after" (← get).before
  | w :: rest =>
    set (⟨w, rest⟩ : ExprInput)
    return w

/-- Takes the next word if it is one of some operators. -/
def operator? (operators : List String) : StateT ExprInput (Except String) (Option String) := do
  match (← get).words with
  | [] => return none
  | w :: rest =>
    if operators.contains w then
      set (⟨w, rest⟩ : ExprInput)
      return some w
    else return none

/-- The operators from the loosest to the tightest level. -/
def levels : List (List String) :=
  [["|"], ["&"], ["<", "<=", "=", "==", "!=", ">=", ">"], ["+", "-"], ["*", "/", "%"], [":"]]

/-- Whether the operand behind an operator counts. -/
def countsBehind (operator a : String) : Bool :=
  match operator with
  | "|" => isNullValue a
  | "&" => !isNullValue a
  | _ => true

def apply (charset : Charset) (operator a b : String) : ExprResult String :=
  match operator with
  | "|" => .ok (if isNullValue a then (if isNullValue b then "0" else b) else a)
  | "&" => .ok (if isNullValue a || isNullValue b then "0" else a)
  | ":" => matchValue charset a b
  | _ =>
    if ["+", "-", "*", "/", "%"].contains operator then combineIntegers operator a b
    else .ok (compareValues operator a b)

/-- The value of a computation that counts. -/
def value (counts : Bool) (r : ExprResult String) : StateT ExprInput (Except String) String :=
  if counts then liftM r else return ""

mutual

/-- Reads operands of the tighter levels with operators of the first level between them. -/
def level (charset : Charset) : (fuel : Nat) → List (List String) → ExprReader
  | 0, _, _ => next charset
  | fuel + 1, [], counts => operand charset fuel counts
  | fuel + 1, operators :: tighter, counts => do
    let a ← level charset fuel tighter counts
    more charset fuel operators tighter a counts

def more (charset : Charset) : (fuel : Nat) → List String → List (List String) → String → ExprReader
  | 0, _, _, a, _ => return a
  | fuel + 1, operators, tighter, a, counts => do
    match ← operator? operators with
    | none => return a
    | some w =>
      let b ← level charset fuel tighter (counts && countsBehind w a)
      let c ← value counts (apply charset w a b)
      more charset fuel operators tighter c counts

/-- A word, a function of operands or an expression in parentheses. -/
def operand (charset : Charset) : (fuel : Nat) → ExprReader
  | 0, _ => next charset
  | fuel + 1, counts => do
    match ← next charset with
    | "(" =>
      let a ← level charset fuel levels counts
      match (← get).words with
      | [] => complain charset "expecting ')' after" (← get).before
      | w :: rest =>
        if w = ")" then
          set (⟨w, rest⟩ : ExprInput)
          return a
        else complain charset "expecting ')' instead of" w
    | ")" => throw "syntax error: unexpected ')'"
    | "+" => next charset
    | "length" =>
      let a ← operand charset fuel counts
      return toString a.length
    | "match" =>
      let a ← operand charset fuel counts
      let b ← operand charset fuel counts
      value counts (matchValue charset a b)
    | "index" =>
      let a ← operand charset fuel counts
      let b ← operand charset fuel counts
      return indexValue a b
    | "substr" =>
      let a ← operand charset fuel counts
      let b ← operand charset fuel counts
      let c ← operand charset fuel counts
      return substringValue a b c
    | w => return w

end

end ExprReader

def exprValue (charset : Charset) (args : List String) : ExprResult String := do
  let (a, i) ← (ExprReader.level charset (16 * (args.length + 1)) ExprReader.levels true).run ⟨"expr", args⟩
  match i.words with
  | [] => .ok a
  | w :: _ => .error ("syntax error: unexpected argument " ++ quoteWord charset w)

def expr : Program := fun self args => do
  let charset := (← get).charset
  match (if args.head? = some "--" then args.tail else args) with
  | [] => (misused 2 self "missing operand").deliver 3 self
  | args =>
    match exprValue charset (args.map (inCharset charset)) with
    | .error e => (complains 2 self e).deliver 3 self
    | .ok a =>
      Printout.deliver 3 self { code := if isNullValue a then 1 else 0, out := fromCharset charset a ++ "\n" }

end CommandPipeline.Platform.Tool
