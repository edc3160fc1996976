import CommandPipeline.Platform.Shell.Fields
import CommandPipeline.Platform.Shell.Sum
import CommandPipeline.Text.Blank

/-! Replacing what a word holds: tildes, parameters, the output of commands and arithmetic expressions.
How a command is run to get its output is a parameter. -/
namespace CommandPipeline.Platform.Shell

open Text (Octets)

/-! ### Tildes -/

/-- The home of a user, as the file of users tells it. -/
def homeOfUser? (files : Files) (user : Octets) : Option Octets :=
  match files.read [] "/etc/passwd" with
  | .error _ => none
  | .ok bytes =>
    ((Octets.ofBytes bytes).splitOn "\n").findSome? fun line =>
      match line.splitOn ":" with
      | name :: _ :: _ :: _ :: _ :: home :: _ => if name = user then some home else none
      | _ => none

/-- What a tilde in front of a name stands for. -/
def homeOf? (s : Session) (name : Octets) : Option Octets :=
  if name = "" then s.memory.valueOf? "HOME" else homeOfUser? s.world.files name

/-- A word with homes in place of its tildes. A tilde counts in front and, with `colons`, behind a
colon. -/
def withHomes (home? : Octets → Option Octets) (colons : Bool) : (front : Bool) → Word → Word
  | _, [] => []
  | front, p :: rest =>
    match p with
    | .char c =>
      if front ∧ c = '~' then
        let name := rest.takeWhile fun
          | .char c => c != '/' && !(colons && c == ':')
          | _ => false
        let behind := rest.drop name.length
        let closed := match behind with
          | [] | .char _ :: _ => true
          | _ => false
        match if closed then (plainText? name).bind home? else none with
        | some home => home.toList.map .escaped ++ withHomes home? colons false behind
        | none => p :: withHomes home? colons false rest
      else p :: withHomes home? colons (colons && c == ':') rest
    | p => p :: withHomes home? colons false rest
termination_by _ w => w.length
decreasing_by all_goals simp +zetaDelta only [List.length_drop, List.length_cons]; omega

/-! ### Quotes -/

/-- The parts of a word, each with whether it stands between quotes. All parameters between quotes of
their own are no quoted text: without parameters there is no field. -/
def placed : (quoted : Bool) → Word → List (Part × Bool)
  | _, [] => []
  | false, .quote :: .parameter "@" .value false [] :: .quote :: rest =>
    (.parameter "@" .value false [], true) :: placed false rest
  | quoted, .quote :: rest => (.quote, quoted) :: placed (!quoted) rest
  | quoted, p :: rest => (p, quoted) :: placed quoted rest

/-! ### Parameters -/

/-- The number that a text of digits is as 32 bits. -/
def parameterNumber (name : Octets) : Int :=
  match digits? 10 decimalValue? name.toList with
  | some (n, _) => ((min n 0x7FFFFFFFFFFFFFFF : Nat) : Int).bmod UInt32.size
  | none => -1

/-- What stands between the parameters if all of them make one text. -/
def joint (m : Memory) (full quoted : Bool) (name : Octets) : Octets :=
  if full && quoted && name == "@" then String.ofList [betweenParameters]
  else match m.valueOf? "IFS" with
    | none => " "
    | some separators =>
      if full && !quoted then String.ofList [betweenParameters] else String.ofList (separators.toList.take 1)

/-- The value of a parameter, if it has one. -/
def parameterValue? (m : Memory) (full quoted : Bool) (name : Octets) : Option Octets :=
  match name with
  | "$" => some (toString m.root)
  | "?" => some (toString m.status)
  | "#" => some (toString m.parameters.length)
  | "!" => m.background.map toString
  | "-" => some m.optionLetters
  | "@" | "*" => some ((joint m full quoted name).intercalate m.parameters)
  | name =>
    if name.toList.head?.any Char.isDigit then
      match parameterNumber name with
      | 0 => some m.name
      | .ofNat (n + 1) => m.parameters[n]?
      | .negSucc _ => none
    else m.valueOf? name

/-- A text without a beginning that matches a pattern, the longest or the shortest one. -/
def withoutFront (pattern : List Char) (longest : Bool) (text : List Char) : List Char :=
  let cuts := List.range (text.length + 1)
  match (if longest then cuts.reverse else cuts).find? fun n => Glob.fits ['!'] pattern (text.take n) with
  | some n => text.drop n
  | none => text

/-- A text without an end that matches a pattern, the longest or the shortest one. -/
def withoutBack (pattern : List Char) (longest : Bool) (text : List Char) : List Char :=
  let cuts := List.range (text.length + 1)
  match (if longest then cuts else cuts.reverse).find? fun n => Glob.fits ['!'] pattern (text.drop n) with
  | some n => text.take n
  | none => text

/-! ### Words -/

/-- Where parts stand. -/
structure Place where
  /-- The word is to be cut into fields. -/
  full : Bool := false
  /-- A tilde in front means a home. -/
  tilde : Bool := true
  /-- Tildes behind colons mean homes too. -/
  colons : Bool := false
  quoted : Bool := false
  /-- The word belongs to a parameter. -/
  inner : Bool := false

/-- The output of a command as it is put into a word: without NUL and without the line ends at its end. -/
def tidied (output : Octets) : Octets :=
  let cs := output.toList.filter (·.toNat ≠ 0)
  String.ofList (Text.dropEndWhile (· == '\n') cs)

mutual

/-- The runs of a word, in which all is replaced. -/
def wordRuns (substitute : Command → Step Octets) : (fuel : Nat) → Place → Word → Step (List Run)
  | 0, _, _ => return []
  | fuel + 1, place, w => do
    let s ← get
    partRuns substitute fuel place
      (placed false (if place.tilde then withHomes (homeOf? s) place.colons true w else w))

def partRuns (substitute : Command → Step Octets) : (fuel : Nat) → Place → List (Part × Bool) → Step (List Run)
  | 0, _, _ | _ + 1, _, [] => return []
  | fuel + 1, place, (part, inside) :: rest => do
    let quoted := place.quoted || inside
    let cutting : Cutting := if quoted then .nowhere else .fields
    match part with
    | .char c =>
      let more := (rest.takeWhile fun q => q.2 == inside).map Prod.fst |>.map (fun | .char c => some c | _ => none)
        |>.takeWhile Option.isSome |>.filterMap id
      let run : Run := {
        cutting := if place.inner then cutting else .nowhere
        pieces := (c :: more).map fun c => .char c false }
      return run :: (← partRuns substitute fuel place (rest.drop more.length))
    | .escaped c =>
      return { pieces := [.char c true] } :: (← partRuns substitute fuel place rest)
    | .quote => return { pieces := [.quote] } :: (← partRuns substitute fuel place rest)
    | .parameter name use colon word =>
      let runs ← parameterRuns substitute fuel { place with quoted } name use colon word
      return runs ++ (← partRuns substitute fuel place rest)
    | .output c =>
      let text := tidied (← substitute c)
      return { cutting, pieces := pieces quoted text } :: (← partRuns substitute fuel place rest)
    | .sum inside =>
      let text := runText (← wordRuns substitute fuel { tilde := false } inside)
      let n ← Sum.value text
      return { cutting, pieces := pieces quoted (toString n) } :: (← partRuns substitute fuel place rest)

/-- The runs of a parameter. -/
def parameterRuns (substitute : Command → Step Octets) :
    (fuel : Nat) → Place → Octets → ParameterUse → (colon : Bool) → Word → Step (List Run)
  | 0, _, _, _, _, _ => return []
  | fuel + 1, place, name, use, colon, word => do
    let m ← Step.memory
    let value := parameterValue? m place.full place.quoted name
    let present := value.filter fun v => !(colon && v == "")
    let cutting : Cutting := if !place.quoted then .fields
      else if name = "@" ∧ !m.parameters.isEmpty then .parameters else .nowhere
    let own (v : Octets) : List Run := [{ cutting, pieces := pieces place.quoted v }]
    let missing {α : Type} (text : Octets) : Step α := Step.fail (name ++ ": " ++ text)
    match use with
    | .bad => Step.fail "Bad substitution"
    | .default =>
      match present with
      | some v => return own v
      | none => wordRuns substitute fuel { place with inner := true, tilde := true } word
    | .alternative =>
      if present.isSome then wordRuns substitute fuel { place with inner := true, tilde := true } word
      else return []
    | .assign =>
      match present with
      | some v => return own v
      | none =>
        let v := runText (← wordRuns substitute fuel {} word)
        Step.setVariable name (some v)
        return own v
    | .require =>
      match present with
      | some v => return own v
      | none =>
        let text := runText (← wordRuns substitute fuel {} word)
        missing (if !word.isEmpty then text
          else "parameter not set" ++ if colon then " or null" else "")
    | .value | .length | .trimLeft _ | .trimRight _ =>
      if value.isNone && m.has "nounset" then missing "parameter not set"
      let cut (without : List Char → List Char → List Char) (v : Octets) : Step (List Run) := do
        let p := pattern ((← wordRuns substitute fuel {} word).flatMap Run.pieces)
        return own (String.ofList (without p v.toList))
      match use, value with
      | .length, value => return own (toString (value.elim 0 String.length))
      | _, none => return []
      | .trimLeft longest, some v => cut (fun p cs => withoutFront p longest cs) v
      | .trimRight longest, some v => cut (fun p cs => withoutBack p longest cs) v
      | _, some v => return own v

end

/-! ### What words are used for -/

/-- How deep words may stand in words. -/
def wordDepth : Nat := 100000

/-- The fields of a word; those that are patterns become the paths that match. -/
def wordFields (substitute : Command → Step Octets) (w : Word) : Step (List Octets) := do
  let runs ← wordRuns substitute wordDepth { full := true } w
  let s ← get
  let found := fields s.memory.separators runs
  return if s.memory.has "noglob" then found.map pieceText else found.flatMap (paths s.world)

/-- The text of a word that stays whole. -/
def wordText (substitute : Command → Step Octets) (colons : Bool) (w : Word) : Step Octets :=
  return runText (← wordRuns substitute wordDepth { colons } w)

/-- A word as a pattern. -/
def wordPattern (substitute : Command → Step Octets) (w : Word) : Step (List Char) :=
  return pattern ((← wordRuns substitute wordDepth {} w).flatMap Run.pieces)

/-- The text of a document. -/
def documentText (substitute : Command → Step Octets) (d : Document) : Step Octets := do
  if d.expands then
    return runText (← wordRuns substitute wordDepth { tilde := false, quoted := true } d.text)
  else return (String.ofList (d.text.filterMap fun | .char c | .escaped c => some c | _ => none))

end CommandPipeline.Platform.Shell
