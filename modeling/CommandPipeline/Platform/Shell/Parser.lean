import CommandPipeline.Platform.Shell.Lexis

/-! Reading scripts. A word is read character by character; which characters mean something depends on
the quotes and braces around them. Commands are read one line at a time. -/
namespace CommandPipeline.Platform.Shell

open Text (Octets)

namespace Reader

/-! ### Pieces of words -/

/-- A piece of a word before it is known what belongs to which brace. -/
inductive Glyph where
  | part (p : Part)
  | enter (name : Octets) (use : ParameterUse) (colon : Bool)
  | leave
  | enterSum
  | leaveSum

/-- The parts up to the next closing glyph, and what follows it. -/
def assemble : (fuel : Nat) → List Glyph → List Part × List Glyph
  | 0, _ | _ + 1, [] => ([], [])
  | _ + 1, .leave :: rest | _ + 1, .leaveSum :: rest => ([], rest)
  | fuel + 1, .part p :: rest =>
    let (parts, rest) := assemble fuel rest
    (p :: parts, rest)
  | fuel + 1, .enter name use colon :: rest =>
    let (word, rest) := assemble fuel rest
    let (parts, rest) := assemble fuel rest
    (.parameter name use colon word :: parts, rest)
  | fuel + 1, .enterSum :: rest =>
    let (inside, rest) := assemble fuel rest
    let (parts, rest) := assemble fuel rest
    (.sum inside :: parts, rest)

/-- What the characters of a word mean. -/
inductive Surroundings where
  | plain
  | double
  | single
  | sum
  deriving DecidableEq, Inhabited

/-- The quotes and braces around a character. -/
structure Level where
  kind : Surroundings
  /-- Whether a double quote is open inside braces. -/
  innerQuote : Bool := false
  /-- Whether the level ends with its last brace. -/
  pushed : Bool := false
  quoted : Bool := false
  braces : Nat := 0
  quotedBraces : Nat := 0
  parens : Nat := 0
  deriving Inhabited

/-- A word while it is read. -/
structure Scan where
  level : Level
  outer : List Level := []
  /-- The pieces, the last one first. -/
  glyphs : List Glyph := []
  /-- The mark of the document that is read instead of a word. -/
  mark : Option (List Char) := none
  stripTabs : Bool := false
  quoted : Bool := false

namespace Scan

def inDocument (s : Scan) : Bool := s.mark.isSome

def add (s : Scan) (p : Part) : Scan := { s with glyphs := .part p :: s.glyphs }

def addGlyph (s : Scan) (g : Glyph) : Scan := { s with glyphs := g :: s.glyphs }

def addQuote (s : Scan) : Scan := if s.inDocument then s else s.add .quote

def push (s : Scan) (kind : Surroundings) (quoted : Bool) : Scan :=
  { s with level := { kind, quoted }, outer := s.level :: s.outer }

def pop (s : Scan) : Scan :=
  match s.outer with
  | level :: outer => { s with level, outer }
  | [] => s

/-- A quote that opens or closes, inside braces too. -/
def toggle (s : Scan) : Scan :=
  let level := if 0 < s.level.braces then { s.level with innerQuote := !s.level.innerQuote } else s.level
  { s with level }.addQuote

def word (s : Scan) : Word := (assemble (s.glyphs.length + 1) s.glyphs.reverse).1

end Scan

/-- Characters that mean something in a pattern or at the front of a word. -/
def isProtected (kind : Surroundings) (c : Char) : Bool :=
  match kind with
  | .double => "!*?[=~:/-]".toList.contains c
  | .single => "!*?[=~:/-]\\".toList.contains c
  | _ => false

/-- Characters that end a word outside quotes. -/
def isBreaking (c : Char) : Bool := "<>();&| \t".toList.contains c

/-! ### Parameters -/

/-- Takes characters for which something holds, behind a first one, and the one behind them. -/
def takeWhile (holds : Char → Bool) : (fuel : Nat) → List Char → Option Char → Reader (Octets × Option Char)
  | 0, taken, c => return (String.ofList taken.reverse, c)
  | fuel + 1, taken, c => do
    match c.filter holds with
    | some d =>
      let n ← nextJoined
      takeWhile holds fuel (d :: taken) n
    | none => return (String.ofList taken.reverse, c)

/-- The name of a parameter, and the character behind it. `plain` parameters stand in no braces. -/
def parameterName (fuel : Nat) (plain : Bool) (c : Option Char) : Reader (Option (Octets × Option Char)) := do
  match c with
  | some d =>
    if isNameStart d then return some (← takeWhile isNameChar fuel [] c)
    else if d.isDigit then
      if plain then
        let n ← nextJoined
        return some (String.ofList [d], n)
      else return some (← takeWhile Char.isDigit fuel [] c)
    else return none
  | none => return none

/-- What an operator behind a parameter asks for, without the colon. -/
def useOf? (c : Char) : Option ParameterUse :=
  match c with
  | '-' => some .default
  | '+' => some .alternative
  | '?' => some .require
  | '=' => some .assign
  | c => if c.toNat = 0x7D then some .value else none

/-- Reads what is asked of a parameter behind its name. -/
def parameterUse (c : Option Char) : Reader (ParameterUse × Bool) := do
  match c with
  | some ':' =>
    match (← nextJoined).bind useOf? with
    | some use => return (use, true)
    | none => return (.bad, true)
  | some '%' =>
    let n ← nextJoined
    if n = some '%' then return (.trimRight true, false)
    else
      giveBack n
      return (.trimRight false, false)
  | some '#' =>
    let n ← nextJoined
    if n = some '#' then return (.trimLeft true, false)
    else
      giveBack n
      return (.trimLeft false, false)
  | c => return ((c.bind useOf?).getD .bad, false)

def isClosingBrace (c : Option Char) : Bool := c.any fun c => c.toNat == 0x7D

/-- Reads a parameter in braces, of which `c` is the first character: its name and its use. -/
def bracedParameter (fuel : Nat) (c : Option Char) : Reader (Octets × ParameterUse × Bool) := do
  let bad (c : Option Char) : Reader (Octets × ParameterUse × Bool) := do
    giveBack c
    return ("", .bad, false)
  let behind (name : Octets) (c : Option Char) : Reader (Octets × ParameterUse × Bool) := do
    return (name, ← parameterUse c)
  let length (name : Octets) (c : Option Char) : Reader (Octets × ParameterUse × Bool) := do
    giveBack c
    return (name, if isClosingBrace c then .length else .bad, false)
  match ← parameterName fuel false c with
  | some (name, n) => behind name n
  | none =>
    if isClosingBrace c then bad c
    else
      let n ← nextJoined
      if c = some '#' then
        match ← if n.any isNameChar then parameterName fuel false n else pure none with
        | some (name, n) => length name n
        | none =>
          let m ← nextJoined
          if isClosingBrace n ∨ !isClosingBrace m then
            giveBack m
            behind "#" n
          else if n.any isSpecialParameter then length (String.ofList n.toList) m
          else bad m
      else if c.any isSpecialParameter then behind (String.ofList c.toList) n
      else bad n

/-! ### Quotes that hide commands -/

/-- The text up to the closing backquote, without the backslashes that it takes. -/
def backquoted (quoted : Bool) : (fuel : Nat) → List Char → Reader (List Char)
  | 0, taken => return taken.reverse
  | fuel + 1, taken => do
    match ← nextJoined with
    | none => complain "EOF in backquote substitution"
    | some c =>
      if c.toNat = 0x60 then return taken.reverse
      else if c = '\\' then
        match ← next with
        | none => backquoted quoted fuel (c :: taken)
        | some d =>
          let taken := if d = '\\' ∨ d.toNat = 0x60 ∨ d = '$' ∨ (quoted ∧ d.toNat = 0x22) then d :: taken
            else d :: c :: taken
          backquoted quoted fuel taken
      else
        if c = '\n' then newLine
        backquoted quoted fuel (c :: taken)

/-- Skips a comment. -/
def skipComment : Reader Unit := modify fun s => { s with input := s.input.dropWhile (· != '\n') }

/-- At the start of a line of a document: whether the line is its mark, which is skipped then. -/
def atMark (s : Scan) (c : Option Char) : Reader (Bool × Option Char) := do
  match s.mark with
  | none => return (false, c)
  | some mark =>
    giveBack c
    if s.stripTabs then modify fun s => { s with input := s.input.dropWhile (· == '\t') }
    let input := (← get).input
    let line := input.takeWhile (· != '\n')
    if line = mark then
      modify fun s => { s with input := input.drop (line.length + 1), line := s.line + 1 }
      return (true, none)
    else return (false, ← next)

/-- The last character of a word that is no document may open a redirection, of which the word then is the
descriptor. -/
def redirectionOf (c : Char) (descriptor : Option Nat) : Reader Unit := do
  let keep (r : Redirection) : Reader Unit := modify fun s => { s with redirection := r }
  if c = '>' then
    let d := descriptor.getD 1
    match ← nextJoined with
    | some '>' => keep (.file d .append [])
    | some '|' => keep (.file d .overwrite [])
    | some '&' => keep (.duplicate d [])
    | n =>
      giveBack n
      keep (.file d .write [])
  else
    let d := descriptor.getD 0
    match ← nextJoined with
    | some '<' =>
      let n ← nextJoined
      if n ≠ some '-' then giveBack n
      modify fun s => { s with redirection := .document d 0, stripTabs := n == some '-' }
    | some '&' => keep (.duplicate d [])
    | some '>' => keep (.file d .readWrite [])
    | n =>
      giveBack n
      keep (.file d .read [])

/-- A word that has been read to its end, behind which `c` stands. -/
def finishWord (s : Scan) (c : Option Char) : Reader Token := do
  if s.level.kind = .sum then complain "Missing '))'"
  else if s.level.kind ≠ .plain ∧ !s.inDocument then complain "Unterminated quoted string"
  else if 0 < s.level.braces then complain "Missing '\x7d'"
  else
    let word := s.word
    let descriptor? : Option (Option Nat) := match word with
      | [] => some none
      | [.char d] => if d.isDigit then some (some (d.toNat - 48)) else none
      | _ => none
    match c.filter fun c => !s.inDocument && !s.quoted && (c == '<' || c == '>'), descriptor? with
    | some c, some descriptor =>
      redirectionOf c descriptor
      found .redirection
    | _, _ =>
      giveBack c
      modify fun st => { st with word }
      found .word

/-! ### Words and commands -/

/-- Puts the name of a file, or of a descriptor, into the last redirection. -/
def named (r : Redirection) (w : Word) : Redirection :=
  match r with
  | .file d use _ => .file d use w
  | .duplicate d _ => .duplicate d w
  | r => r

/-- The word between two commands of a sequence. -/
def followed (a b : Command) : Command :=
  match a with
  | .nothing => b
  | a => .sequence a b

/-- A command that is not waited for. -/
def inBackground (c : Command) : Command :=
  match c with
  | .pipeline commands _ => .pipeline commands true
  | .redirected line c redirections => .background line c redirections
  | c => .background 0 c []

/-- A command with redirections behind it. -/
def withRedirections (line : Nat) (c : Command) (redirections : List Redirection) : Command :=
  if redirections.isEmpty then c
  else match c with
    | .subshell line c _ => .subshell line c redirections
    | c => .redirected line c redirections

/-- The builtin commands that no function may have the name of. -/
def specialNames : List Octets :=
  [".", ":", "break", "continue", "eval", "exec", "exit", "export", "local", "readonly", "return", "set",
   "shift", "times", "trap", "unset"]

mutual

/-- Reads a word, or a document, from the character `c` on. `lineStart` tells whether a line begins there. -/
def scan : (fuel : Nat) → Scan → (lineStart : Bool) → Option Char → Reader Token
  | 0, _, _, _ => complain "word too long"
  | fuel + 1, s, lineStart, c => do
    let (ended, c) ← if lineStart then atMark s c else pure (false, c)
    let again (s : Scan) (lineStart : Bool := false) : Reader Token := do
      let c ← if s.level.kind = .single then next else nextJoined
      scan fuel s lineStart c
    match if ended then none else c with
    | none => finishWord s none
    | some c =>
      let l := s.level
      if c = '\n' then
        if l.kind = .plain ∧ l.braces = 0 then finishWord s (some c)
        else
          newLine
          again (s.add (.char c)) true
      else if c = '\\' ∧ l.kind ≠ .single then
        match ← next with
        | none => again (s.add (.escaped '\\'))
        | some d =>
          let kept := l.quoted && d != '\\' && d.toNat != 0x60 && d != '$' &&
            (d.toNat != 0x22 || (s.inDocument && l.braces == 0)) && (d.toNat != 0x7D || l.braces == 0)
          let s := if kept then s.add (.escaped '\\') else s
          if d = '\n' then newLine
          again { s.add (.escaped d) with quoted := true }
      else if c.toNat = 0x27 ∧ l.kind = .plain then again { s with level := { l with kind := .single } }.addQuote
      else if c.toNat = 0x22 ∧ l.kind = .plain then
        again { s with level := { l with kind := .double, quoted := true } }.toggle
      else if (c.toNat = 0x27 ∧ l.kind = .single) ∨ (c.toNat = 0x22 ∧ l.kind = .double) then
        if s.inDocument ∧ l.braces = 0 then again (s.add (.char c))
        else
          let l := if l.quotedBraces = 0 then { l with kind := .plain, quoted := false } else l
          let s := { s with level := l, quoted := true }
          again (if c.toNat = 0x22 then s.toggle else s.addQuote)
      else if c = '$' ∧ l.kind ≠ .single then do
        let s ← substitution fuel s
        again s
      else if c.toNat = 0x60 ∧ l.kind ≠ .single ∧ !(← get).expected.documentMark then
        let text ← backquoted l.quoted fuel []
        let saved ← get
        set { saved with input := text, line := 1, awaited := [] }
        let body ← list fuel true false
        documents fuel
        modify fun s => { s with
          input := saved.input, line := saved.line, awaited := saved.awaited, again := false }
        again (s.add (.output body))
      else if c.toNat = 0x7D ∧ l.kind ≠ .single then
        if !l.innerQuote ∧ 0 < l.braces then
          let l := { l with braces := l.braces - 1 }
          let s := s.addGlyph .leave
          if l.braces = 0 ∧ l.pushed then again { s with level := l }.pop
          else again { s with level := { l with quotedBraces := l.quotedBraces - 1 } }
        else again (s.add (.char c))
      else if c = '(' ∧ l.kind = .sum then again { s.add (.char c) with level := { l with parens := l.parens + 1 } }
      else if c = ')' ∧ l.kind = .sum then
        if 0 < l.parens then again { s.add (.char c) with level := { l with parens := l.parens - 1 } }
        else
          let n ← nextJoined
          if n = some ')' then again (s.addGlyph .leaveSum).pop
          else
            giveBack n
            again (s.add (.char c))
      else if l.kind = .plain ∧ isBreaking c ∧ l.braces = 0 then finishWord s (some c)
      else if isProtected l.kind c ∧ (!s.inDocument ∨ l.quoted) then again (s.add (.escaped c))
      else again (s.add (.char c))

/-- Reads what stands behind a dollar sign. -/
def substitution : (fuel : Nat) → Scan → Reader Scan
  | 0, _ => complain "word too long"
  | fuel + 1, s => do
    let c ← nextJoined
    let brace := c.any fun c => c.toNat == 0x7B
    let begins := brace || c.any fun c => c == '(' || isNameStart c || isSpecialParameter c
    if !begins || (← get).expected.documentMark then
      giveBack c
      return s.add (.char '$')
    else if c = some '(' then
      let n ← nextJoined
      if n = some '(' then return (s.addGlyph .enterSum).push .sum true
      else
        giveBack n
        let awaited := (← get).awaited
        modify fun s => { s with awaited := [] }
        let body ← list fuel true false
        if (← token fuel) ≠ .closeParen then unexpected (some .closeParen)
        modify fun s => { s with awaited := [] }
        modify fun s => { s with awaited, again := false }
        return s.add (.output body)
    else if brace then
      let (name, use, colon) ← bracedParameter fuel (← nextJoined)
      if use = .value ∧ !colon then return s.add (.parameter name .value false [])
      else
        let trims := match use with
          | .trimLeft _ | .trimRight _ => true
          | _ => false
        let kind := if trims then .plain else if s.level.kind = .sum then .double else s.level.kind
        let s := if kind ≠ s.level.kind ∨ s.level.innerQuote then
            let s := s.push kind (kind != .plain)
            { s with level := { s.level with pushed := true } }
          else s
        let l := s.level
        let l := { l with braces := l.braces + 1, quotedBraces := l.quotedBraces + if l.quoted then 1 else 0 }
        return { s with level := l }.addGlyph (.enter name use colon)
    else
      match ← parameterName fuel true c with
      | some (name, n) =>
        giveBack n
        return s.add (.parameter name .value false [])
      | none => return s.add (.parameter (String.ofList c.toList) .value false [])

/-- Reads a token, without looking for keywords. -/
def rawToken : (fuel : Nat) → Reader Token
  | 0 => complain "word too long"
  | fuel + 1 => do
    if (← get).again then
      modify fun s => { s with again := false }
      return (← get).last
    else match ← nextJoined with
      | none => found .finish
      | some ' ' | some '\t' => rawToken fuel
      | some '#' =>
        skipComment
        rawToken fuel
      | some '\n' =>
        newLine
        found .newline
      | some '&' => longer '&' .andAlso .ampersand
      | some '|' => longer '|' .orElse .pipe
      | some ';' => longer ';' .endClause .semicolon
      | some '(' => found .openParen
      | some ')' => found .closeParen
      | some c => scan fuel { level := { kind := .plain } } true (some c)

/-- Reads the documents that begin at the line. -/
def documents : (fuel : Nat) → Reader Unit
  | 0 => return ()
  | fuel + 1 => do
    match (← get).awaited with
    | [] => return ()
    | a :: rest =>
      modify fun s => { s with awaited := rest }
      let level : Level := if a.expands then { kind := .double, quoted := true } else { kind := .single }
      let c ← if a.expands then nextJoined else next
      let _ ← scan fuel { level, mark := some a.mark, stripTabs := a.stripTabs } true c
      modify fun s => { s with documents := s.documents.setIfInBounds a.number ⟨s.word, a.expands⟩ }
      documents fuel

/-- Skips line ends and the documents behind them. -/
def skipLines : (fuel : Nat) → Token → Reader Token
  | 0, t => return t
  | fuel + 1, t => do
    if t = .newline then
      documents fuel
      modify fun s => { s with expected := {} }
      let t ← rawToken fuel
      skipLines fuel t
    else return t

/-- Reads a token as it is expected. -/
def token : (fuel : Nat) → Reader Token
  | 0 => complain "word too long"
  | fuel + 1 => do
    let e := (← get).expected
    let before := (← get).input.length
    let t ← rawToken fuel
    let t ← if e.skipLines then skipLines fuel t else pure t
    modify fun s => { s with expected := {} }
    match t, plainText? (← get).word with
    | .word, some text =>
      if e.keywords ∧ keywords.contains text then found (.keyword text)
      else
        let inviting ← endsOpen before (← get).input.length
        match ← if e.aliases || inviting then alias? else pure none with
        | some (name, text) =>
          expand name text
          expect e
          token fuel
        | none => return t
    | _, _ => return t

/-- Reads the word behind a redirection. -/
def target : (fuel : Nat) → Reader Redirection
  | 0 => complain "word too long"
  | fuel + 1 => do
    let r := (← get).redirection
    match r with
    | .document d _ =>
      let stripTabs := (← get).stripTabs
      expect { documentMark := true }
      if (← token fuel) ≠ .word then unexpected
      let s ← get
      let quoted := s.word.any fun | .quote | .escaped _ => true | _ => false
      let mark := s.word.flatMap fun | .char c | .escaped c => [c] | _ => []
      let a : Awaited := { number := s.documents.size, mark, stripTabs, expands := !quoted }
      set { s with awaited := s.awaited ++ [a], documents := s.documents.push ⟨[], false⟩ }
      return .document d a.number
    | r =>
      if (← token fuel) ≠ .word then unexpected
      return named r (← get).word

/-- Reads commands with operators between them. Without `empty`, there is at least one. A `line` of
commands ends with the line, and other lists before a token that ends them. -/
def list : (fuel : Nat) → (empty line : Bool) → Reader Command
  | 0, _, _ => complain "script too long"
  | fuel + 1, empty, line => more fuel line empty .nothing

def more : (fuel : Nat) → (line mayEnd : Bool) → Command → Reader Command
  | 0, _, _, _ => complain "script too long"
  | fuel + 1, line, mayEnd, before => do
    expect { commandStart with skipLines := !line }
    match ← token fuel with
    | .newline =>
      documents fuel
      return before
    | .finish =>
      documents fuel
      let _ ← found .finish
      readAgain
      return before
    | t =>
      readAgain
      if mayEnd ∧ !line ∧ t.endsList then return before
      else
        let c ← andOr fuel
        let t ← token fuel
        let c := if t = .ampersand then inBackground c else c
        let before := followed before c
        match t with
        | .newline | .finish =>
          readAgain
          more fuel line true before
        | .ampersand | .semicolon => more fuel line true before
        | _ =>
          if line then unexpected
          readAgain
          return before

/-- Reads commands of which each one decides whether the next one is run. -/
def andOr : (fuel : Nat) → Reader Command
  | 0 => complain "script too long"
  | fuel + 1 => do
    let c ← pipeline fuel
    andOrMore fuel c

def andOrMore : (fuel : Nat) → Command → Reader Command
  | 0, _ => complain "script too long"
  | fuel + 1, a => do
    match ← token fuel with
    | .andAlso =>
      expect commandStart
      let b ← pipeline fuel
      andOrMore fuel (.both a b)
    | .orElse =>
      expect commandStart
      let b ← pipeline fuel
      andOrMore fuel (.either a b)
    | _ =>
      readAgain
      return a

def pipeline : (fuel : Nat) → Reader Command
  | 0 => complain "script too long"
  | fuel + 1 => do
    let negated := (← token fuel) = .keyword "!"
    if negated then expect { keywords := true, aliases := true } else readAgain
    let first ← command fuel
    let rest ← pipelineMore fuel
    let c := if rest.isEmpty then first else .pipeline (first :: rest) false
    return if negated then .negation c else c

def pipelineMore : (fuel : Nat) → Reader (List Command)
  | 0 => complain "script too long"
  | fuel + 1 => do
    if (← token fuel) = .pipe then
      expect commandStart
      let c ← command fuel
      return c :: (← pipelineMore fuel)
    else
      readAgain
      return []

/-- Reads a token that has to be there. -/
def require : (fuel : Nat) → Token → Reader Unit
  | 0, _ => complain "script too long"
  | fuel + 1, t => do
    if (← token fuel) ≠ t then unexpected (some t)

/-- Reads a command that may have redirections behind it. -/
def command : (fuel : Nat) → Reader Command
  | 0 => complain "script too long"
  | fuel + 1 => do
    let t ← token fuel
    let line := (← get).line
    let closed (c : Command) (close : Token) : Reader Command := do
      require fuel close
      expect { keywords := true, aliases := true }
      let redirections ← trailing fuel
      return withRedirections line c redirections
    match t with
    | .word | .redirection =>
      readAgain
      simple fuel ([], [], []) none
    | .openParen =>
      let body ← list fuel false false
      closed (.subshell line body []) .closeParen
    | .keyword "if" =>
      let c ← conditional fuel
      closed c (.keyword "fi")
    | .keyword "while" =>
      let test ← list fuel false false
      require fuel (.keyword "do")
      let body ← list fuel false false
      closed (.loop true test body) (.keyword "done")
    | .keyword "until" =>
      let test ← list fuel false false
      require fuel (.keyword "do")
      let body ← list fuel false false
      closed (.loop false test body) (.keyword "done")
    | .keyword "for" =>
      if (← token fuel) ≠ .word then complain "Bad for loop variable"
      match plainText? (← get).word with
      | none => complain "Bad for loop variable"
      | some name =>
        if !isName name then complain "Bad for loop variable"
        expect commandStart
        let words ← forWords fuel
        expect commandStart
        require fuel (.keyword "do")
        let body ← list fuel false false
        closed (.forEach line name words body) (.keyword "done")
    | .keyword "case" =>
      if (← token fuel) ≠ .word then unexpected (some .word)
      let word := (← get).word
      expect commandStart
      require fuel (.keyword "in")
      let clauses ← clauses fuel
      expect { keywords := true, aliases := true }
      let redirections ← trailing fuel
      return withRedirections line (.choice line word clauses) redirections
    | .keyword k =>
      if k = "\x7b" then
        let body ← list fuel false false
        closed body (.keyword "\x7d")
      else unexpected
    | _ => unexpected

/-- Reads what follows an `if`, without the closing word. -/
def conditional : (fuel : Nat) → Reader Command
  | 0 => complain "script too long"
  | fuel + 1 => do
    let test ← list fuel false false
    require fuel (.keyword "then")
    let yes ← list fuel false false
    match ← token fuel with
    | .keyword "elif" => return .conditional test yes (← conditional fuel)
    | .keyword "else" => return .conditional test yes (← list fuel false false)
    | _ =>
      readAgain
      return .conditional test yes .nothing

/-- Reads the words that a `for` goes through. Without any, it goes through the parameters. -/
def forWords : (fuel : Nat) → Reader (List Word)
  | 0 => complain "script too long"
  | fuel + 1 => do
    match ← token fuel with
    | .keyword "in" => wordsToEnd fuel
    | t =>
      if t ≠ .semicolon then readAgain
      return [[.quote, .parameter "@" .value false [], .quote]]

def wordsToEnd : (fuel : Nat) → Reader (List Word)
  | 0 => complain "script too long"
  | fuel + 1 => do
    match ← token fuel with
    | .word =>
      let w := (← get).word
      return w :: (← wordsToEnd fuel)
    | .newline | .semicolon => return []
    | _ => unexpected

/-- Reads the clauses of a `case` up to its end. -/
def clauses : (fuel : Nat) → Reader (List Clause)
  | 0 => complain "script too long"
  | fuel + 1 => do
    expect { skipLines := true, keywords := true }
    let t ← token fuel
    if t = .keyword "esac" then return []
    else
      if t = .openParen then discard (token fuel)
      let patterns ← patterns fuel
      let body ← list fuel true false
      let clause := Clause.mk patterns body
      expect { skipLines := true, keywords := true }
      match ← token fuel with
      | .keyword "esac" => return [clause]
      | .endClause => return clause :: (← clauses fuel)
      | _ => unexpected (some .endClause)

/-- Reads patterns, of which the first one has been read, up to the closing parenthesis. -/
def patterns : (fuel : Nat) → Reader (List Word)
  | 0 => complain "script too long"
  | fuel + 1 => do
    let w := (← get).word
    match ← token fuel with
    | .pipe =>
      discard (token fuel)
      return w :: (← patterns fuel)
    | .closeParen => return [w]
    | _ => unexpected (some .closeParen)

/-- Reads redirections. -/
def trailing : (fuel : Nat) → Reader (List Redirection)
  | 0 => complain "script too long"
  | fuel + 1 => do
    if (← token fuel) = .redirection then
      let r ← target fuel
      expect { keywords := true, aliases := true }
      return r :: (← trailing fuel)
    else
      readAgain
      return []

/-- Reads words, assignments and redirections up to another token. -/
def simple : (fuel : Nat) → (read : List Word × List Word × List Redirection) → (line : Option Nat) → Reader Command
  | 0, _, _ => complain "script too long"
  | fuel + 1, (assignments, words, redirections), line => do
    let first := line.getD (← get).line
    expect { aliases := words.isEmpty }
    match ← token fuel with
    | .word =>
      let w := (← get).word
      if words.isEmpty ∧ (assignment? w).isSome then
        simple fuel (assignments ++ [w], words, redirections) (some first)
      else simple fuel (assignments, words ++ [w], redirections) (some first)
    | .redirection =>
      let r ← target fuel
      simple fuel (assignments, words, redirections ++ [r]) (some first)
    | .openParen =>
      if words.length = 1 ∧ assignments.isEmpty ∧ redirections.isEmpty then
        require fuel .closeParen
        match words.head?.bind plainText? with
        | none => complain "Bad function name"
        | some name =>
          if !isName name ∨ specialNames.contains name then complain "Bad function name"
          expect commandStart
          let line := (← get).line
          return .function line name (← command fuel)
      else
        readAgain
        return .simple first assignments words redirections
    | _ =>
      readAgain
      return .simple first assignments words redirections

end

end Reader

/-! ### Lines of a script -/

/-- What has been read of a script. -/
inductive Reading where
  | command (c : Command)
  | finish
  | fault (text : String)

/-- Reads the commands of the next line. -/
def readLine (s : ReaderState) : Reading × ReaderState :=
  let fuel := 20 * (s.input.length + 200)
  let s := { s with again := false, awaited := [] }
  match (Reader.list fuel false true).run s with
  | (.error text, s) => (.fault text, s)
  | (.ok c, s) =>
    match c with
    | .nothing => (if s.last = .finish ∧ s.again then .finish else .command .nothing, s)
    | c => (.command c, s)

end CommandPipeline.Platform.Shell
