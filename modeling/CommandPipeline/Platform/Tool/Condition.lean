import CommandPipeline.Platform.Numeral
import CommandPipeline.Platform.Quoting

/-! The program `test`, also under its name `[`: its answer is its exit code. The number of words
decides how short conditions are read. -/
namespace CommandPipeline.Platform.Tool

open Text (Octets)

/-- Why words are no condition. -/
inductive TestFault where
  /-- The words end too early. -/
  | missingArgument
  | unknownUnary (word : Octets)
  | unknownBinary (word : Octets)
  | notInteger (word : Octets)
  /-- An operator compares no lengths. -/
  | noLength (operator : Octets)
  | extra (word : Octets)
  /-- A parenthesis is open at the end of the words, or at a word that does not close it. -/
  | unclosed (found : Option Octets)
  deriving DecidableEq, Repr

abbrev TestResult (α : Type) := Except TestFault α

/-! ### Files -/

/-- The device behind a descriptor, if the descriptor is a terminal or another device. -/
def deviceOf? (w : World) (n : Nat) : Option Device :=
  match w.channel? n with
  | some (.device d) => some d
  | _ => none

def isPipe (w : World) (n : Nat) : Bool :=
  match w.channel? n with
  | some (.pipe _) => true
  | _ => false

/-- The node that stands for what a descriptor leads to, if it is open. -/
def describedNode? (w : World) : Node → Option Node
  | .device (.descriptor n) =>
    match w.channel? n with
    | none => none
    | some (.file path _ _) => (w.files.node? path).or (some (.device (.descriptor n)))
    | some .directory => some .directory
    | some (.device d) => some (.device d)
    | some (.pipe _) => some (.device (.descriptor n))
  | node => some node

/-- A test of what stands at a path. -/
def fileTest? (w : World) (letter : Char) (path : Octets) : Option Bool :=
  let node? : Option Node := ((w.files.find w.here path).toOption).bind (describedNode? w)
  let ofNode (holds : Node → Bool) : Option Bool := some (node?.any holds)
  match letter with
  | 'e' | 'r' | 'w' | 'G' | 'O' => some node?.isSome
  | 'f' => ofNode fun | .file _ _ => true | _ => false
  | 'd' => ofNode fun | .directory => true | _ => false
  | 's' => ofNode fun | .file bytes _ => !bytes.isEmpty | .directory => true | _ => false
  | 'x' => ofNode fun | .file _ executable => executable | .directory => true | _ => false
  | 'c' => ofNode fun | .device (.descriptor _) => false | .device _ => true | _ => false
  | 'p' => ofNode fun | .device (.descriptor n) => isPipe w n | _ => false
  | 'h' | 'L' => some (match w.files.findLink w.here path with
    | .ok (.link _) | .ok (.device (.descriptor _)) => true
    | _ => false)
  | 'k' => some (match w.files.resolve w.here path with
    | .ok place => place = ["tmp"] ∨ place = ["var", "tmp"]
    | .error _ => false)
  | 'b' | 'S' | 'g' | 'u' | 'N' => some false
  | _ => none

/-- Whether a descriptor is a terminal. -/
def isTerminal (w : World) (n : Int) : Bool := 0 ≤ n && deviceOf? w n.toNat == some .terminal

/-- When a file was last changed, if it is there. -/
def changeOf? (w : World) (path : Octets) : Option Nat :=
  match w.files.resolve w.here path with
  | .ok place => if (w.files.node? place).isSome then some (w.files.changed place) else none
  | .error _ => none

/-- Whether the first of two files is newer. A file that is not there is older than any other. -/
def isNewer (w : World) (a b : Octets) : Bool :=
  match changeOf? w a, changeOf? w b with
  | some m, some n => n < m
  | some _, none => true
  | none, _ => false

def isSameFile (w : World) (a b : Octets) : Bool :=
  (changeOf? w a).isSome && (w.files.resolve w.here a).toOption == (w.files.resolve w.here b).toOption

/-! ### Operators -/

/-- Whether a word is a minus sign and a letter. -/
def isUnaryForm (word : Octets) : Bool := word.length == 2 && word.startsWith "-"

/-- A whole number with a sign in front and blanks around it. -/
def testInteger (s : Octets) : TestResult Int :=
  let cs := s.toList.dropWhile isSpace
  let cs := (cs.reverse.dropWhile isSpace).reverse
  match if cs.head? = some '+' then (wholeNumber? (String.ofList cs.tail)).filter (fun _ => cs[1]? ≠ some '-')
      else wholeNumber? (String.ofList cs) with
  | some n => .ok n
  | none => .error (.notInteger s)

def unaryTest (w : World) (operator a : Octets) : TestResult Bool :=
  match operator.toList with
  | ['-', 'n'] => .ok (a ≠ "")
  | ['-', 'z'] => .ok (a = "")
  | ['-', 't'] => (testInteger a).map (isTerminal w)
  | ['-', letter] =>
    match fileTest? w letter a with
    | some b => .ok b
    | none => .error (.unknownUnary operator)
  | _ => .error (.unknownUnary operator)

/-- Whether an operator takes one operand. -/
def isUnaryOperator (w : World) (operator : Octets) : Bool :=
  match operator.toList with
  | ['-', letter] => letter == 'n' || letter == 'z' || letter == 't' || (fileTest? w letter "").isSome
  | _ => false

def numberTests : List (Octets × (Int → Int → Bool)) :=
  [("-eq", fun m n => m == n), ("-ne", fun m n => m != n), ("-lt", fun m n => m < n), ("-le", fun m n => m ≤ n),
   ("-gt", fun m n => n < m), ("-ge", fun m n => n ≤ m)]

def isBinaryOperator (word : Octets) : Bool :=
  ["=", "==", "!=", "-nt", "-ot", "-ef"].contains word || (numberTests.lookup word).isSome

/-- An operand that is compared: a word, or the length of one. -/
structure TestOperand where
  word : Octets
  length : Bool := false

def TestOperand.number (o : TestOperand) : TestResult Int :=
  if o.length then .ok o.word.length else testInteger o.word

def binaryTest (w : World) (operator : Octets) (a b : TestOperand) : TestResult Bool :=
  match numberTests.lookup operator with
  | some compare => do .ok (compare (← a.number) (← b.number))
  | none =>
    if ["-nt", "-ot", "-ef"].contains operator && (a.length || b.length) then .error (.noLength operator)
    else match operator with
      | "-nt" => .ok (isNewer w a.word b.word)
      | "-ot" => .ok (isNewer w b.word a.word)
      | "-ef" => .ok (isSameFile w a.word b.word)
      | "!=" => .ok (a.word != b.word)
      | _ => .ok (a.word == b.word)

/-! ### Conditions

Each reader takes words from the front and gives the words that follow. -/

abbrev Reader := List Octets → TestResult (Bool × List Octets)

def oneWord : Reader
  | [] => .error .missingArgument
  | a :: rest => .ok (a ≠ "", rest)

def unaryCondition (w : World) : Reader
  | operator :: a :: rest => do .ok (← unaryTest w operator a, rest)
  | [operator] => .error (if isUnaryOperator w operator then .missingArgument else .unknownUnary operator)
  | [] => .error .missingArgument

/-- An operator between two operands, of which the second one may be a length. -/
def binaryCondition (w : World) (length : Bool) : Reader
  | a :: operator :: "-l" :: b :: rest => do
    .ok (← binaryTest w operator ⟨a, length⟩ ⟨b, true⟩, rest)
  | a :: operator :: b :: rest => do .ok (← binaryTest w operator ⟨a, length⟩ ⟨b, false⟩, rest)
  | _ => .error .missingArgument

/-- The reader's answer, negated. -/
def negated (read : Reader) : Reader := fun words => do
  let (b, rest) ← read words
  .ok (!b, rest)

def twoWords (w : World) : Reader := fun words =>
  match words with
  | "!" :: rest => negated oneWord rest
  | a :: _ => if isUnaryForm a then unaryCondition w words else .error .missingArgument
  | [] => .error .missingArgument

/-- A term that no exclamation mark and no parenthesis opens. -/
def plainTerm (w : World) : Reader := fun words =>
  match words with
  | "-l" :: rest@(_ :: operator :: _ :: _) =>
    if isBinaryOperator operator then binaryCondition w true rest
    else if rest.head?.any isBinaryOperator then binaryCondition w false words
    else unaryCondition w words
  | a :: operator :: _ :: _ =>
    if isBinaryOperator operator then binaryCondition w false words
    else if isUnaryForm a then unaryCondition w words
    else oneWord words
  | a :: _ => if isUnaryForm a then unaryCondition w words else oneWord words
  | [] => .error .missingArgument

/-- How many words belong to a parenthesis: those up to the next closing one if that is near, and all
of them otherwise. -/
def wordsInside (words : List Octets) : Nat :=
  let inside := (words.tail.takeWhile (· ≠ ")")).length + 1
  if 4 < inside then words.length else inside

mutual

/-- Terms joined by `-o` and, more tightly, by `-a`. -/
def alternatives (w : World) : (fuel : Nat) → Reader
  | 0, _ => .error .missingArgument
  | fuel + 1, words => do
    let (b, rest) ← conjunction w fuel words
    match rest with
    | "-o" :: rest =>
      let (c, rest) ← alternatives w fuel rest
      .ok (b || c, rest)
    | rest => .ok (b, rest)

def conjunction (w : World) : (fuel : Nat) → Reader
  | 0, _ => .error .missingArgument
  | fuel + 1, words => do
    let (b, rest) ← term w fuel words
    match rest with
    | "-a" :: rest =>
      let (c, rest) ← conjunction w fuel rest
      .ok (b && c, rest)
    | rest => .ok (b, rest)

def term (w : World) : (fuel : Nat) → Reader
  | 0, _ => .error .missingArgument
  | fuel + 1, "!" :: rest => negated (term w fuel) rest
  | _ + 1, ["("] => .error .missingArgument
  | fuel + 1, "(" :: rest => do
    let (b, after) ← condition w fuel (wordsInside rest) rest
    match after with
    | ")" :: after => .ok (b, after)
    | after => .error (.unclosed after.head?)
  | _ + 1, words => plainTerm w words

/-- A condition of three words. -/
def threeWords (w : World) : (fuel : Nat) → Reader
  | 0, _ => .error .missingArgument
  | fuel + 1, words =>
    match words with
    | a :: operator :: b :: rest =>
      if isBinaryOperator operator then binaryCondition w false words
      else if a = "!" then negated (twoWords w) (operator :: b :: rest)
      else if a = "(" ∧ b = ")" then .ok (operator ≠ "", rest)
      else if operator = "-a" ∨ operator = "-o" then alternatives w fuel words
      else .error (.unknownBinary operator)
    | _ => .error .missingArgument

/-- The condition of the first `count` words. -/
def condition (w : World) : (fuel : Nat) → (count : Nat) → Reader
  | 0, _, _ => .error .missingArgument
  | _ + 1, 1, words => oneWord words
  | _ + 1, 2, words => twoWords w words
  | fuel + 1, 3, words => threeWords w fuel words
  | fuel + 1, 4, words =>
    match words with
    | "!" :: rest => negated (threeWords w fuel) rest
    | "(" :: a :: b :: ")" :: after => do
      let (c, rest) ← twoWords w (a :: b :: ")" :: after)
      .ok (c, rest.tail)
    | words => alternatives w fuel words
  | fuel + 1, _, words => alternatives w fuel words

end

/-- Whether the words hold. No words do not. -/
def holds (w : World) (words : List Octets) : TestResult Bool := do
  if words.isEmpty then .ok false
  else
    let (b, rest) ← condition w (4 * words.length + 4) words.length words
    match rest with
    | [] => .ok b
    | extra :: _ => .error (.extra extra)

/-! ### The program -/

/-- What is wrong with words, behind which another one may stand that does not count. -/
def TestFault.message (charset : Charset) (words : List Octets) (behind : Option Octets) : TestFault → Octets
  | .missingArgument => "missing argument after " ++ quoteArgument charset (words.getLast?.getD "")
  | .unknownUnary word => quoteArgument charset word ++ ": unary operator expected"
  | .unknownBinary word => quoteArgument charset word ++ ": binary operator expected"
  | .notInteger word => "invalid integer " ++ quoteArgument charset word
  | .noLength operator => operator ++ " does not accept -l"
  | .extra word => "extra argument " ++ quoteArgument charset word
  | .unclosed word => quoteArgument charset ")" ++ " expected" ++
      (word.or behind).elim "" fun found => ", found " ++ quoteArgument charset found

def judge (behind : Option Octets) : Program := fun self words => do
  let w ← get
  match holds w words with
  | .ok b => return .exited (if b then 0 else 1)
  | .error e => (complains 2 self (e.message w.charset words behind)).deliver 1 self

def test : Program := judge none

/-- The same program, with a closing bracket behind its words, unless they ask for help. -/
def bracket : Program := fun self words => do
  if words = ["--help"] ∨ words = ["--version"] then return .exited 0
  match words.getLast? with
  | some "]" => judge (some "]") self words.dropLast
  | _ => (complains 2 self ("missing " ++ quoteArgument (← get).charset "]")).deliver 1 self

end CommandPipeline.Platform.Tool
