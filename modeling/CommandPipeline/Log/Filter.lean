import CommandPipeline.Log.Pattern
import CommandPipeline.Log.Record
import CommandPipeline.Text.Alphanumeric
import CommandPipeline.Text.Blank
import CommandPipeline.Text.Octets

/-! Filters decide which log records reach the screen. A filter is a list of directives, each a level
for the parts of the program whose name begins with its target; the most specific one decides. -/
namespace CommandPipeline.Log

structure Directive where
  /-- The beginning of the names that the directive is about, or none if it is about all names. -/
  target : Option String := none
  /-- The name of a field that a record must have. -/
  field : Option String := none
  /-- The rank of the most detailed level that passes, or zero for none. -/
  rank : Nat
  deriving DecidableEq, Repr

structure Filter where
  directives : List Directive
  deriving DecidableEq, Repr

/-- The only field of a record is its message. -/
def messageField : String := "message"

namespace Directive

/-- Whether the directive is about the record. -/
def concerns (d : Directive) (r : Record) : Bool :=
  (d.target.getD "").toList.isPrefixOf r.target.toList && d.field.all (· == messageField)

/-- How specific a directive is: first a longer target counts, and then a field. -/
def specificity (d : Directive) : Nat :=
  2 * d.target.elim 0 (fun t => t.length + 1) + if d.field.isSome then 1 else 0

end Directive

namespace Filter

/-- The filter that lets a level and all less detailed ones pass. -/
def upTo (l : Level) : Filter := ⟨[⟨none, none, l.rank⟩]⟩

/-- The more specific of two directives, and the later one of equally specific ones. -/
def moreSpecific (best : Option Directive) (d : Directive) : Option Directive :=
  match best with
  | none => some d
  | some b => if b.specificity ≤ d.specificity then some d else some b

def allows (f : Filter) (r : Record) : Bool :=
  match (f.directives.filter fun d => d.concerns r).foldl moreSpecific none with
  | some d => r.level.rank ≤ d.rank
  | none => false

/-! ### Levels -/

/-- A whole number of 64 bits with an optional plus sign. -/
def wholeNumber? (s : String) : Option Nat :=
  let digits := if s.toList.head? = some '+' then s.toList.tail else s.toList
  if digits.isEmpty || !digits.all Char.isDigit then none
  else
    let n := digits.foldl (fun n c => n * 10 + (c.toNat - 48)) 0
    if n < UInt64.size then some n else none

/-- A level by its name in any case or by its number. -/
def rank? (s : String) : Option Nat :=
  match wholeNumber? s with
  | some n => if n ≤ Level.trace.rank then some n else none
  | none =>
    if s.toLower = "off" then some 0
    else ([Level.error, .warn, .info, .debug, .trace].find? fun l => l.title.toLower = s.toLower).map
      Level.rank

/-! ### Directives

A directive is a level, or a target with a span and a field in brackets and a level behind an equals
sign, of which any may be missing but not all. -/

/-- The part of a directive that is being read, with the position of its first byte. -/
inductive Stage where
  | nothing
  | name (first : Nat)
  | span (first : Nat)
  | field (first : Nat)
  | fieldEnd
  | spanEnd
  | level (first : Nat)

/-- What has been read of a directive. -/
structure Draft where
  stage : Stage := .nothing
  target : Option String := none
  inSpan : Bool := false
  /-- The name of a field, and whether it has to have some value. -/
  field : Option (String × Bool) := none

/-- A field with the pattern of its value behind an equals sign. -/
def field? (s : Text.Octets) : Option (String × Bool) :=
  match s.toText.splitOn "=" with
  | [""] => none
  | [name] => some (name, false)
  | name :: value :: _ => if isPattern value.toList then some (name, true) else none
  | [] => none

/-- Reads one byte of a directive, which stands at position `i`; `slice` gives the bytes between two
positions. -/
def Draft.read? (slice : Nat → Nat → String) (d : Draft) (i : Nat) (c : Char) : Option Draft :=
  match d.stage with
  | .nothing => some { d with stage := if c = '[' then .span (i + 1) else .name i }
  | .name first =>
    if c = '=' then some { d with stage := .level (i + 1), target := some (slice first i) }
    else if c = '[' then some { d with stage := .span (i + 1), target := some (slice first i) }
    else some d
  | .span first =>
    if c = ']' then some { d with stage := .spanEnd, inSpan := true }
    else if c.toNat = 0x7B then
      some { d with stage := .field (i + 1), inSpan := slice first i ≠ "" }
    else some d
  | .field first =>
    if c.toNat = 0x7D then (field? (slice first i)).map fun f => { d with stage := .fieldEnd, field := f }
    else some d
  | .fieldEnd => if c = ']' then some { d with stage := .spanEnd } else none
  | .spanEnd => if c = '=' then some { d with stage := .level (i + 1) } else none
  | .level _ => some d

/-- The directives that a draft makes once all of it is read; `rest` gives the bytes from a position
on. A directive about spans or about values says nothing about records. -/
def Draft.finish? (rest : Nat → String) (d : Draft) : Option (List Directive) :=
  let ranked (rank : Nat) : List Directive :=
    if d.inSpan || d.field.any Prod.snd then [] else [⟨d.target, d.field.map Prod.fst, rank⟩]
  match d.stage with
  | .name first =>
    let text := rest first
    match rank? text with
    | some rank => some [⟨none, none, rank⟩]
    | none => some [⟨some text, none, Level.trace.rank⟩]
  | .level first => if rest first = "" then some (ranked Level.trace.rank) else (rank? (rest first)).map ranked
  | .spanEnd => some (ranked Level.trace.rank)
  | _ => none

/-- Whether a directive can begin with the character. -/
def isFirstChar (c : Char) : Bool :=
  c == '[' || c == '-' || c == ':' || c == '_' || Text.isAlphanumeric c

/-- Reads a directive. Blanks around it are passed over, but the positions of its parts are counted
without those in front. -/
def directive? (s : String) : Option (List Directive) := do
  let body := Text.trim s.toList
  if !body.head?.any isFirstChar then none
  let octets := (Text.Octets.ofText s).toList
  let slice (first last : Nat) : String := String.ofList ((octets.take last).drop first)
  let draft ← (Text.Octets.ofText (String.ofList body)).toList.zipIdx.foldlM
    (fun d c => Draft.read? slice d c.2 c.1) {}
  draft.finish? fun first => slice first octets.length

/-- A filter from directives with commas between them. -/
def parse? (s : String) : Option Filter :=
  (((s.splitOn ",").filter (· ≠ "")).mapM directive?).map fun ds => ⟨ds.flatten⟩

/-- The filter of the screen. A setting in the environment counts for more than the wish for details,
unless it cannot be read. -/
def ofSetting (setting : Option String) (verbose : Bool) : Filter :=
  (setting.bind parse?).getD (upTo (if verbose then .debug else .info))

end Filter

end CommandPipeline.Log
