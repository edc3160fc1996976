import CommandPipeline.Platform.Shell.Session

/-! Arithmetic expressions of the shell, with whole numbers of 64 bits. An expression is read and
computed at the same time; what does not count is read alone. -/
namespace CommandPipeline.Platform.Shell

open Text (Octets)

/-! ### Words -/

inductive SumWord where
  | number (n : Int)
  | name (s : Octets)
  | operator (s : String)
  /-- A character that no expression holds, or the end. -/
  | other (isEnd : Bool)
  deriving DecidableEq, Inhabited

namespace Sum

def operators : List String :=
  ["<<=", ">>=", "<<", ">>", "<=", ">=", "==", "!=", "&&", "||", "+=", "-=", "*=", "/=", "%=", "&=", "|=",
   "^=", "=", "<", ">", "+", "-", "*", "/", "%", "&", "|", "^", "!", "~", "?", ":", "(", ")"]

/-- The number of 64 bits with the same last bits. -/
def wrap (n : Int) : Int := n.bmod UInt64.size

/-- Cuts an expression into words. Nothing is read behind a character that no expression holds. -/
def words : (fuel : Nat) → List Char → List SumWord
  | 0, _ | _ + 1, [] => [.other true]
  | fuel + 1, c :: cs =>
    if c = ' ' ∨ c = '\t' ∨ c = '\n' then words fuel cs
    else if c.isDigit then
      match natural? (c :: cs) with
      | some (n, rest) => .number (min n 0x7FFFFFFFFFFFFFFF) :: words fuel rest
      | none => [.other false]
    else if isNameStart c then
      let name := (c :: cs).takeWhile isNameChar
      .name (String.ofList name) :: words fuel ((c :: cs).drop name.length)
    else
      match operators.find? fun o => o.toList.isPrefixOf (c :: cs) with
      | some o => .operator o :: words fuel ((c :: cs).drop o.length)
      | none => [.other false]

/-! ### Operators -/

/-- How loosely an operator between two numbers binds. -/
def looseness? (operator : String) : Option Nat :=
  match operator with
  | "*" | "/" | "%" => some 0
  | "+" | "-" => some 1
  | "<<" | ">>" => some 2
  | "<" | "<=" | ">" | ">=" => some 3
  | "==" | "!=" => some 4
  | "&" => some 5
  | "^" => some 6
  | "|" => some 7
  | _ => none

/-- The operator that an assignment uses, of which a plain one uses none. -/
def assigning? (operator : String) : Option (Option String) :=
  match operator with
  | "=" => some none
  | "+=" | "-=" | "*=" | "/=" | "%=" | "&=" | "|=" | "^=" | "<<=" | ">>=" =>
    some (some (String.ofList operator.toList.dropLast))
  | _ => none

def truth (b : Bool) : Int := if b then 1 else 0

/-- A number as 64 bits. -/
def bits (n : Int) : UInt64 := UInt64.ofNat (n % UInt64.size).toNat

def ofBits (b : UInt64) : Int := wrap b.toNat

/-- What a computation stands in. -/
structure Frame where
  text : Octets

/-- A computation: the words that are left, and the word that has been read last. -/
abbrev Reading := StateT (List SumWord × SumWord) Step

def fail {α : Type} (f : Frame) (text : String) : Reading α :=
  Step.fail ("arithmetic expression: " ++ text ++ ": \"" ++ f.text ++ "\"")

/-- The value of two numbers. -/
def combine (f : Frame) (operator : String) (a b : Int) : Reading Int := do
  match operator with
  | "*" => return wrap (a * b)
  | "+" => return wrap (a + b)
  | "-" => return wrap (a - b)
  | "/" | "%" =>
    if b = 0 then fail f "division by zero"
    else if a = -0x8000000000000000 ∧ b = -1 then throw (Interrupt.over (.signaled 8))
    else return if operator = "/" then a.tdiv b else a.tmod b
  | "<<" => return ofBits (bits a <<< bits (b % 64))
  | ">>" => return a >>> (b % 64).toNat
  | "<" => return truth (a < b)
  | "<=" => return truth (a ≤ b)
  | ">" => return truth (b < a)
  | ">=" => return truth (b ≤ a)
  | "==" => return truth (a = b)
  | "!=" => return truth (a ≠ b)
  | "&" => return ofBits (bits a &&& bits b)
  | "^" => return ofBits (bits a ^^^ bits b)
  | _ => return ofBits (bits a ||| bits b)

/-! ### Reading -/

/-- Takes the next word. -/
def next : Reading SumWord := do
  match (← get).1 with
  | w :: rest =>
    set (if rest.isEmpty then [w] else rest, w)
    return w
  | [] => return .other true

def last : Reading SumWord := return (← get).2

def setLast (w : SumWord) : Reading Unit := modify fun s => (s.1, w)

/-- The value of a variable, which has to be a number if it is not empty. -/
def valueOf (name : Octets) : Reading Int := do
  let value := ((← Step.memory).valueOf? name).getD ""
  match readInteger? true natural? value.toList with
  | some ⟨n, false, rest⟩ => if rest.all isSpace then return n else Step.fail ("Illegal number: " ++ value)
  | some _ => Step.fail ("Illegal number: " ++ value)
  | none => if value.toList.all isSpace then return 0 else Step.fail ("Illegal number: " ++ value)

/-- Whether a word is an operator between two numbers. -/
def between? : SumWord → Option (String × Nat)
  | .operator o => (looseness? o).map fun n => (o, n)
  | _ => none

mutual

/-- A condition or an assignment that begins with a word. -/
def assignment (f : Frame) : (fuel : Nat) → SumWord → (idle : Bool) → Reading Int
  | 0, _, _ => fail f "expecting primary"
  | fuel + 1, w, idle => do
    let after ← next
    match w, after with
    | .name name, .operator o =>
      match assigning? o with
      | none => condition f fuel w after idle
      | some operator =>
        let n ← assignment f fuel (← next) idle
        if idle then return n
        else
          let n ← match operator with
            | none => pure n
            | some o => combine f o (← valueOf name) n
          Step.setVariable name (some (toString n))
          return n
    | w, after => condition f fuel w after idle

def condition (f : Frame) : (fuel : Nat) → (w after : SumWord) → (idle : Bool) → Reading Int
  | 0, _, _, _ => fail f "expecting primary"
  | fuel + 1, w, after, idle => do
    let a ← either f fuel w after idle
    if (← last) ≠ .operator "?" then return a
    else
      let b ← assignment f fuel (← next) (idle || a == 0)
      if (← last) ≠ .operator ":" then fail f "expecting ':'"
      let w ← next
      let after ← next
      let c ← condition f fuel w after (idle || a != 0)
      return if a ≠ 0 then b else c

def either (f : Frame) : (fuel : Nat) → (w after : SumWord) → (idle : Bool) → Reading Int
  | 0, _, _, _ => fail f "expecting primary"
  | fuel + 1, w, after, idle => do
    let a ← both f fuel w after idle
    if (← last) ≠ .operator "||" then return a
    else
      let w ← next
      let after ← next
      let b ← either f fuel w after (idle || a != 0)
      return truth (a ≠ 0 ∨ b ≠ 0)

def both (f : Frame) : (fuel : Nat) → (w after : SumWord) → (idle : Bool) → Reading Int
  | 0, _, _, _ => fail f "expecting primary"
  | fuel + 1, w, after, idle => do
    let a ← operation f fuel w after idle
    if (← last) ≠ .operator "&&" then return a
    else
      let w ← next
      let after ← next
      let b ← both f fuel w after (idle || a == 0)
      return truth (a ≠ 0 ∧ b ≠ 0)

/-- Operators between two numbers. -/
def operation (f : Frame) : (fuel : Nat) → (w after : SumWord) → (idle : Bool) → Reading Int
  | 0, _, _, _ => fail f "expecting primary"
  | fuel + 1, w, after, idle => do
    let a ← primary f fuel w after idle
    match between? (← last) with
    | some (o, _) => operations f fuel a o 8 idle
    | none => return a

/-- Goes on with operators that bind more tightly than a limit. -/
def operations (f : Frame) : (fuel : Nat) → Int → String → (limit : Nat) → (idle : Bool) → Reading Int
  | 0, _, _, _, _ => fail f "expecting primary"
  | fuel + 1, a, operator, limit, idle => do
    let w ← next
    let after ← next
    let b ← primary f fuel w after idle
    let own := (looseness? operator).getD 8
    let b ← match between? (← last) with
      | some (o, n) => if n < own then operations f fuel b o own idle else pure b
      | none => pure b
    let a ← if idle then pure b else combine f operator a b
    match between? (← last) with
    | some (o, n) => if limit ≤ n then return a else operations f fuel a o limit idle
    | none => return a

/-- A number, a variable, an expression in parentheses, or one of these with a sign. -/
def primary (f : Frame) : (fuel : Nat) → (w after : SumWord) → (idle : Bool) → Reading Int
  | 0, _, _, _ => fail f "expecting primary"
  | fuel + 1, w, after, idle => do
    match w with
    | .number n =>
      setLast after
      return n
    | .name name =>
      setLast after
      if idle then return 0 else valueOf name
    | .operator "(" =>
      let n ← assignment f fuel after idle
      if (← last) ≠ .operator ")" then fail f "expecting ')'"
      discard next
      return n
    | .operator "+" => primary f fuel after (← next) idle
    | .operator "-" => return wrap (-(← primary f fuel after (← next) idle))
    | .operator "!" => return truth ((← primary f fuel after (← next) idle) = 0)
    | .operator "~" => return wrap (-(← primary f fuel after (← next) idle) - 1)
    | _ => fail f "expecting primary"

end

/-- The value of an expression. -/
def value (text : Octets) : Step Int := do
  let words := words (text.length + 1) text.toList
  let whole : Reading Int := do
    let n ← assignment ⟨text⟩ (12 * words.length + 12) (← next) false
    if (← last) ≠ .other true then fail ⟨text⟩ "expecting EOF"
    return n
  return (← whole.run (words, .other true)).1

end Sum

end CommandPipeline.Platform.Shell
