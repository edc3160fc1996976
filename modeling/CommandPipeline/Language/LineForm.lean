import CommandPipeline.Document
import CommandPipeline.Text.Blank

/-! The line forms of the pipeline language. Each recogniser takes a whole line and says what it
captures. Blanks of any kind may stand between the words of a line, but a name has ASCII letters,
digits and underscores only, and a command or a default lies on one line.

Beside each recogniser stands the pattern that it reads, as a regular expression in which `\s` is a Unicode
blank, the dot is any character but a newline, and `NAME` stands for `[A-Za-z0-9_]+`. -/
namespace CommandPipeline.Language

inductive Declaration where
  /-- A variable that starts empty. -/
  | use (name : String)
  /-- A variable that starts with a random token. -/
  | rand (name : String)
  /-- A variable that takes an argument. -/
  | read (input : Input)
  /-- The end of the declarations. -/
  | begin
  deriving DecidableEq, Repr

/-! ### Parts of a line -/

def isNameChar (c : Char) : Bool := c.isAlphanum || c == '_'

/-- A non-empty text of name characters. -/
def isName (cs : List Char) : Bool := !cs.isEmpty && cs.all isNameChar

/-- What follows a keyword and at least one blank, from its first character that is not blank. -/
def afterKeyword? (keyword cs : List Char) : Option (List Char) :=
  match keyword.isPrefixOf? cs with
  | some (c :: rest) => if Text.isBlank c then some (rest.dropWhile Text.isBlank) else none
  | _ => none

/-- The name that stands alone behind a keyword. -/
def keywordName? (keyword : String) (cs : List Char) : Option String :=
  match afterKeyword? keyword.toList cs with
  | some name => if isName name then some (String.ofList name) else none
  | none => none

/-- The text before the closing character, if that is the last one. -/
def beforeLast? (close : Char) (cs : List Char) : Option (List Char) :=
  if cs.getLast? = some close then some cs.dropLast else none

/-- A text without newlines. -/
def onOneLine (cs : List Char) : Bool := cs.all (· != '\n')

/-- The command of a text in parentheses. The last parenthesis closes. -/
def command? : List Char → Option String
  | '(' :: rest =>
    match beforeLast? ')' rest with
    | some c => if !c.isEmpty && onOneLine c then some (String.ofList c) else none
    | none => none
  | _ => none

/-- The default of a text in quotes. The last quote closes. -/
def quoted? : List Char → Option String
  | '"' :: rest =>
    match beforeLast? '"' rest with
    | some d => if onOneLine d then some (String.ofList d) else none
    | none => none
  | _ => none

/-- The name before an equals sign and what follows the sign, without the blanks around it. -/
def assignment? (cs : List Char) : Option (String × List Char) :=
  let name := cs.takeWhile isNameChar
  if name.isEmpty then none
  else match (cs.dropWhile isNameChar).dropWhile Text.isBlank with
    | '=' :: rest => some (String.ofList name, rest.dropWhile Text.isBlank)
    | _ => none

/-! ### The forms -/

/-- The name of the pipeline in its first line: `^pipeline\s+(NAME)$`. -/
def definition? (line : String) : Option String :=
  keywordName? "pipeline" line.toList

/-- An input with an optional default, behind the keyword: `(NAME)(?:\s+"(.*)")?$`. -/
def input? (cs : List Char) : Option Input :=
  let name := cs.takeWhile isNameChar
  if name.isEmpty then none
  else match cs.dropWhile isNameChar with
    | [] => some ⟨String.ofList name, ""⟩
    | c :: rest =>
      if Text.isBlank c then
        (quoted? (rest.dropWhile Text.isBlank)).map fun d => ⟨String.ofList name, d⟩
      else none

/-- An input: `^read\s+(NAME)(?:\s+"(.*)")?$`. -/
def read? (line : String) : Option Input :=
  match afterKeyword? "read".toList line.toList with
  | some rest => input? rest
  | none => none

/-- A declaration, tried as `begin`, as `^use\s+(NAME)$`, as `^rand\s+(NAME)$` and as an input. -/
def declaration? (line : String) : Option Declaration :=
  if line = "begin" then some .begin
  else match keywordName? "use" line.toList with
    | some name => some (.use name)
    | none =>
      match keywordName? "rand" line.toList with
      | some name => some (.rand name)
      | none => (read? line).map .read

/-- A command whose output is captured: `^(NAME)\s*=\s*\((.+)\)$`. -/
def captureStep? (line : String) : Option Step :=
  match assignment? line.toList with
  | some (target, rest) => (command? rest).map (.capture target)
  | none => none

/-- A copy of a variable: `^(NAME)\s*=\s*(NAME)$`. -/
def assignStep? (line : String) : Option Step :=
  match assignment? line.toList with
  | some (target, rest) => if isName rest then some (.assign target (String.ofList rest)) else none
  | none => none

/-- A command: `^\((.+)\)$`. -/
def execStep? (line : String) : Option Step :=
  (command? line.toList).map .exec

/-- A step, tried as capture, as assign and as exec. -/
def step? (line : String) : Option Step :=
  match captureStep? line with
  | some s => some s
  | none =>
    match assignStep? line with
    | some s => some s
    | none => execStep? line

/-- The closing line with the output variable that it may name: `^end(?:\s+(NAME))?$`. -/
def ending? (line : String) : Option (Option String) :=
  if line = "end" then some none
  else (keywordName? "end" line.toList).map some

end CommandPipeline.Language
