import CommandPipeline.Text.Octets

/-! Shell scripts: commands, and words with what is to be replaced in them. -/
namespace CommandPipeline.Platform.Shell

open Text (Octets)

/-- What is done with a parameter. -/
inductive ParameterUse where
  | value
  | length
  /-- Its value, or else a word. -/
  | default
  /-- A word, if it has a value. -/
  | alternative
  /-- Its value, or else a word that it gets. -/
  | assign
  /-- Its value, or else a complaint. -/
  | require
  | trimLeft (longest : Bool)
  | trimRight (longest : Bool)
  /-- Nothing that is known. -/
  | bad
  deriving DecidableEq, Inhabited

/-- How a file is opened for a redirection. -/
inductive FileUse where
  | read
  | readWrite
  | write
  /-- Writing, even if that loses what is in the file. -/
  | overwrite
  | append
  deriving DecidableEq, Inhabited

mutual

/-- A piece of a word. -/
inductive Part where
  | char (c : Char)
  /-- A character that means only itself. -/
  | escaped (c : Char)
  /-- A quote, which opens or closes. -/
  | quote
  /-- A parameter. With a `colon`, an empty value counts as none. -/
  | parameter (name : Octets) (use : ParameterUse) (colon : Bool) (word : List Part)
  /-- The output of commands. -/
  | output (c : Command)
  /-- The value of an arithmetic expression. -/
  | sum (inside : List Part)

inductive Redirection where
  | file (descriptor : Nat) (use : FileUse) (name : List Part)
  /-- The same as another descriptor. -/
  | duplicate (descriptor : Nat) (source : List Part)
  /-- The document with a number. -/
  | document (descriptor : Nat) (number : Nat)

/-- Some patterns, and what is done if one of them matches. -/
inductive Clause where
  | mk (patterns : List (List Part)) (body : Command)

inductive Command where
  | nothing
  | simple (line : Nat) (assignments words : List (List Part)) (redirections : List Redirection)
  | redirected (line : Nat) (c : Command) (redirections : List Redirection)
  | subshell (line : Nat) (c : Command) (redirections : List Redirection)
  | background (line : Nat) (c : Command) (redirections : List Redirection)
  | pipeline (commands : List Command) (background : Bool)
  | negation (c : Command)
  | both (a b : Command)
  | either (a b : Command)
  | sequence (a b : Command)
  | conditional (test yes no : Command)
  /-- Repeats while a test answers as wanted. -/
  | loop (wanted : Bool) (test body : Command)
  | forEach (line : Nat) (name : Octets) (words : List (List Part)) (body : Command)
  | choice (line : Nat) (word : List Part) (clauses : List Clause)
  | function (line : Nat) (name : Octets) (body : Command)

end

instance : Inhabited Part := ⟨.quote⟩
instance : Inhabited Command := ⟨.nothing⟩

abbrev Word := List Part

/-- A document behind a redirection. -/
structure Document where
  text : Word
  /-- Whether anything is replaced in it. -/
  expands : Bool
  deriving Inhabited

/-! ### Names -/

def isNameStart (c : Char) : Bool := c.isAlpha || c == '_'

def isNameChar (c : Char) : Bool := c.isAlphanum || c == '_'

/-- A parameter that is no variable. -/
def isSpecialParameter (c : Char) : Bool := c.isDigit || "#?$!-*@".toList.contains c

def isName (s : Octets) : Bool :=
  match s.toList with
  | [] => false
  | c :: cs => isNameStart c && cs.all isNameChar

/-- The text of a word without quotes and replacements. -/
def plainText? : Word → Option Octets
  | [] => some ""
  | .char c :: rest => (plainText? rest).map fun s => String.ofList [c] ++ s
  | _ => none

/-- A word that means only itself. -/
def exactly (text : Octets) : Word := text.toList.map .escaped

/-- The name that a word assigns a value to, and the value. -/
def assignment? (w : Word) : Option (Octets × Word) :=
  let nameParts := w.takeWhile fun | .char c => isNameChar c | _ => false
  match plainText? nameParts, w.drop nameParts.length with
  | some name, .char '=' :: value => if isName name then some (name, value) else none
  | _, _ => none

def keywords : List Octets :=
  ["!", "case", "do", "done", "elif", "else", "esac", "fi", "for", "if", "in", "then", "until", "while",
   "\x7b", "\x7d"]

end CommandPipeline.Platform.Shell
