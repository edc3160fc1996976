import CommandPipeline.Platform.Shell.Session
import CommandPipeline.Platform.Tool.Condition

/-! The builtin command `test`. The words are read from the left, and what a word is depends on the
words behind it. -/
namespace CommandPipeline.Platform.Shell

open Text (Octets)

namespace Test

/-! ### Operators -/

def unaryOperators : List Octets :=
  ["-r", "-w", "-x", "-e", "-f", "-d", "-c", "-b", "-p", "-u", "-g", "-k", "-s", "-t", "-z", "-n", "-h",
   "-L", "-O", "-G", "-S"]

def binaryOperators : List Octets :=
  ["=", "!=", "<", ">", "-eq", "-ne", "-ge", "-gt", "-le", "-lt", "-nt", "-ot", "-ef"]

inductive Word where
  | finish
  | operand
  | unary (operator : Octets)
  | binary (operator : Octets)
  | negation
  | conjunction
  | disjunction
  | openParen
  | closeParen
  deriving DecidableEq

/-- What the first of the words is. -/
def first : List Octets → Word
  | [] => .finish
  | word :: rest =>
    let alone := rest.isEmpty || (1 < rest.length && rest.head?.any binaryOperators.contains)
    if unaryOperators.contains word then if alone then .operand else .unary word
    else if binaryOperators.contains word then .binary word
    else match word with
      | "!" => .negation
      | "-a" => .conjunction
      | "-o" => .disjunction
      | "(" => if rest.isEmpty then .operand else .openParen
      | ")" => .closeParen
      | _ => .operand

/-! ### Answers -/

def unary (operator operand : Octets) : Step Bool := do
  let w ← Step.world
  match operator.toList with
  | ['-', 'z'] => return operand = ""
  | ['-', 'n'] => return operand ≠ ""
  | ['-', 't'] => return Tool.isTerminal w (← Step.integer operand)
  | ['-', letter] => return (Tool.fileTest? w letter operand).getD false
  | _ => return false

def binary (operator a b : Octets) : Step Bool := do
  let w ← Step.world
  let numbers (compare : Int → Int → Bool) : Step Bool := do
    let m ← Step.integer a
    let n ← Step.integer b
    return compare m n
  let bothThere := (Tool.changeOf? w a).isSome && (Tool.changeOf? w b).isSome
  match operator with
  | "=" => return a = b
  | "!=" => return a ≠ b
  | "<" => return a < b
  | ">" => return b < a
  | "-nt" => return bothThere && Tool.isNewer w a b
  | "-ot" => return bothThere && Tool.isNewer w b a
  | "-ef" => return Tool.isSameFile w a b
  | operator =>
    match Tool.numberTests.lookup operator with
    | some compare => numbers compare
    | none => return false

/-! ### Conditions

A condition is read at the first of some words. It leaves the words from its last one on. -/

abbrev Reading := Step (Bool × List Octets)

mutual

def disjunction : (fuel : Nat) → Word → List Octets → Reading
  | 0, _, words => return (false, words)
  | fuel + 1, kind, words => do
    let (b, words) ← conjunction fuel kind words
    if first words.tail = .disjunction then
      let words := words.drop 2
      let (c, words) ← disjunction fuel (first words) words
      return (b || c, words)
    else return (b, words)

def conjunction : (fuel : Nat) → Word → List Octets → Reading
  | 0, _, words => return (false, words)
  | fuel + 1, kind, words => do
    let (b, words) ← negation fuel kind words
    if first words.tail = .conjunction then
      let words := words.drop 2
      let (c, words) ← conjunction fuel (first words) words
      return (b && c, words)
    else return (b, words)

def negation : (fuel : Nat) → Word → List Octets → Reading
  | 0, _, words => return (false, words)
  | fuel + 1, kind, words => do
    if kind = .negation then
      let kind := first words.tail
      let (b, words) ← negation fuel kind (if kind = .finish then words else words.tail)
      return (!b, words)
    else primary fuel kind words

def primary : (fuel : Nat) → Word → List Octets → Reading
  | 0, _, words => return (false, words)
  | fuel + 1, kind, words => do
    match kind with
    | .finish => return (false, words)
    | .openParen =>
      let kind := first words.tail
      if kind = .closeParen then return (false, words.tail)
      else
        let (b, words) ← disjunction fuel kind words.tail
        if first words.tail ≠ .closeParen then Step.fail "closing paren expected"
        return (b, words.tail)
    | .unary operator =>
      match words.tail with
      | [] => Step.fail (operator ++ ": argument expected")
      | operand :: _ => return (← unary operator operand, words.tail)
    | _ =>
      match first words.tail with
      | .binary operator =>
        match words.drop 2 with
        | [] => Step.fail (operator ++ ": argument expected")
        | b :: _ => return (← binary operator (words.headD "") b, words.drop 2)
      | _ => return (words.headD "" ≠ "", words)

end

/-- Whether a condition holds. -/
def whole (kind : Word) (words : List Octets) : Step Bool := do
  let (b, words) ← disjunction (5 * words.length + 5) kind words
  match words with
  | extra :: _ :: _ => Step.fail (if extra = "" then "unexpected operator" else extra ++ ": unexpected operator")
  | _ => return b

/-- Whether the words hold. Three or four words are read by rules of their own, under which several
negations in front count as one. -/
def holds (negated : Bool) : List Octets → Step Bool
  | [] => return negated
  | [a, operator, b] =>
    if binaryOperators.contains operator then return (← whole .operand [a, operator, b]) != negated
    else if a = "(" ∧ b = ")" then return (← whole (first [operator]) [operator]) != negated
    else if a = "!" then holds true [operator, b]
    else return (← whole (first [a, operator, b]) [a, operator, b]) != negated
  | ["(", a, b, ")"] => return (← whole (first [a, b]) [a, b]) != negated
  | ["!", a, b, c] => holds true [a, b, c]
  | words => return (← whole (first words) words) != negated

end Test

/-- The builtin command, under both of its names. -/
def runTest (self : Octets) (words : List Octets) : Step Nat := do
  let words ← if self = "[" then
      if words.getLast? = some "]" then pure words.dropLast else Step.fail "missing ]"
    else pure words
  return if ← Test.holds false words then 0 else 1

end CommandPipeline.Platform.Shell
