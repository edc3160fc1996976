import CommandPipeline.Platform.Shell.Script

/-! What a reader of scripts holds: the characters that are left, and what it has found last. -/
namespace CommandPipeline.Platform.Shell

open Text (Octets)

/-! ### Tokens -/

inductive Token where
  | finish
  | newline
  | semicolon
  | ampersand
  | andAlso
  | orElse
  | pipe
  | openParen
  | closeParen
  | endClause
  | redirection
  | word
  | keyword (k : Octets)
  deriving DecidableEq, Inhabited

namespace Token

/-- The name of a token in complaints. -/
def title : Token → String
  | .finish => "end of file"
  | .newline => "newline"
  | .semicolon => "\";\""
  | .ampersand => "\"&\""
  | .andAlso => "\"&&\""
  | .orElse => "\"||\""
  | .pipe => "\"|\""
  | .openParen => "\"(\""
  | .closeParen => "\")\""
  | .endClause => "\";;\""
  | .redirection => "redirection"
  | .word => "word"
  | .keyword k => "\"" ++ k ++ "\""

/-- Whether a list of commands ends before the token. -/
def endsList : Token → Bool
  | .finish | .closeParen | .endClause => true
  | .keyword k => ["do", "done", "elif", "else", "esac", "fi", "then", "\x7d"].contains k
  | _ => false

end Token

/-! ### The state of a reader -/

/-- What the next token may be. -/
structure Expectation where
  /-- Line ends before it do not count. -/
  skipLines : Bool := false
  keywords : Bool := false
  aliases : Bool := false
  /-- It is the mark of a document, in which nothing is replaced. -/
  documentMark : Bool := false

/-- A document that begins at the next line. -/
structure Awaited where
  number : Nat
  mark : List Char
  stripTabs : Bool
  expands : Bool

/-- An alias whose text is being read. -/
structure Expansion where
  name : Octets
  /-- How many characters follow the text. -/
  behind : Nat
  /-- Whether the text ends in a blank, so that the next word may be an alias too. -/
  inviting : Bool

structure ReaderState where
  input : List Char
  line : Nat := 1
  /-- Whether the last token is to be read once more. -/
  again : Bool := false
  last : Token := .finish
  word : Word := []
  redirection : Redirection := .document 0 0
  /-- Whether the document behind the last redirection loses the tabs that begin its lines. -/
  stripTabs : Bool := false
  expected : Expectation := {}
  awaited : List Awaited := []
  documents : Array Document := #[]
  aliases : List (Octets × Octets) := []
  expansions : List Expansion := []
  deriving Inhabited

/-- A reader, which may end with a complaint about the script. -/
abbrev Reader := ExceptT String (StateM ReaderState)

namespace Reader

/-! ### Characters -/

/-- Takes the next character. -/
def next : Reader (Option Char) := do
  match (← get).input with
  | [] => return none
  | c :: rest =>
    modify fun s => { s with input := rest }
    return some c

/-- The input without line ends that a backslash hides, and how many there were. -/
def joinLines : List Char → Nat → List Char × Nat
  | '\\' :: '\n' :: rest, n => joinLines rest (n + 1)
  | cs, n => (cs, n)

/-- Takes the next character behind hidden line ends. -/
def nextJoined : Reader (Option Char) := do
  modify fun s =>
    let (input, n) := joinLines s.input 0
    { s with input, line := s.line + n }
  next

/-- Gives a character back. -/
def giveBack (c : Option Char) : Reader Unit :=
  match c with
  | some c => modify fun s => { s with input := c :: s.input }
  | none => return ()

def newLine : Reader Unit := modify fun s => { s with line := s.line + 1 }

/-! ### Complaints -/

def complain {α : Type} (text : String) : Reader α := throw ("Syntax error: " ++ text)

/-- Complains about the last token. -/
def unexpected {α : Type} (wanted : Option Token := none) : Reader α := do
  let found := (← get).last.title ++ " unexpected"
  match wanted with
  | some t => complain (found ++ " (expecting " ++ t.title ++ ")")
  | none => complain found

/-! ### Tokens -/

def expect (e : Expectation) : Reader Unit := modify fun s => { s with expected := e }

/-- What is expected before a command. -/
def commandStart : Expectation := { skipLines := true, keywords := true, aliases := true }

def readAgain : Reader Unit := modify fun s => { s with again := true }

def found (t : Token) : Reader Token := do
  modify fun s => { s with last := t }
  return t

/-- Tells which of two operators it is, of which the longer one has `c` behind it. -/
def longer (c : Char) (long short : Token) : Reader Token := do
  let n ← nextJoined
  if n = some c then found long
  else
    giveBack n
    found short

/-! ### Aliases -/

/-- The text of the last word if it is an alias whose text is not being read. -/
def alias? : Reader (Option (Octets × Octets)) := do
  let s ← get
  match plainText? s.word with
  | none => return none
  | some name =>
    let busy := s.expansions.any fun e => e.name == name && e.behind ≤ s.input.length
    if busy then return none else return (s.aliases.lookup name).map fun text => (name, text)

/-- Reads the text of an alias before the rest. -/
def expand (name text : Octets) : Reader Unit := modify fun s =>
  { s with
    input := text.toList ++ s.input
    expansions := ⟨name, s.input.length, text.endsWith " " || text.endsWith "\t"⟩ :: s.expansions }

/-- Whether the text of an alias that allows one more alias ended while so many characters were left. -/
def endsOpen (before after : Nat) : Reader Bool := do
  return (← get).expansions.any fun e => e.inviting && after ≤ e.behind && e.behind < before

end Reader

end CommandPipeline.Platform.Shell
