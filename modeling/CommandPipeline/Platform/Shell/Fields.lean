import CommandPipeline.Platform.Glob
import CommandPipeline.Platform.Shell.Session

/-! What becomes of a word after its replacements: it is cut into fields, and a field that is a pattern
becomes the paths that match it. -/
namespace CommandPipeline.Platform.Shell

open Text (Octets)

/-! ### Pieces -/

inductive Piece where
  /-- A character, which is `guarded` if it means only itself. -/
  | char (c : Char) (guarded : Bool)
  /-- A quote, which lets an empty field stay. -/
  | quote
  deriving Inhabited

/-- Where a run of pieces is cut. -/
inductive Cutting where
  | nowhere
  /-- At separators. -/
  | fields
  /-- Between parameters. -/
  | parameters
  deriving DecidableEq, Inhabited

structure Run where
  cutting : Cutting := .nowhere
  pieces : List Piece := []
  deriving Inhabited

/-- The character that stands between parameters. -/
def betweenParameters : Char := Char.ofNat 0

def pieces (guarded : Bool) (s : Octets) : List Piece :=
  s.toList.map fun c => .char c (guarded && c != betweenParameters)

/-- The text of pieces. -/
def pieceText (ps : List Piece) : Octets :=
  String.ofList (ps.filterMap fun | .char c _ => some c | .quote => none)

def runText (runs : List Run) : Octets := pieceText (runs.flatMap Run.pieces)

/-- Pieces as a pattern. Guarded characters have a backslash in front, unless there is one already. -/
def patternFrom : (afterSlash : Bool) → List Piece → List Char
  | _, [] => []
  | afterSlash, .quote :: rest => patternFrom afterSlash rest
  | afterSlash, .char c guarded :: rest =>
    let text := if guarded && !afterSlash then ['\\', c] else [c]
    text ++ patternFrom (c == '\\' && !guarded && !afterSlash) rest

def pattern (ps : List Piece) : List Char := patternFrom false ps

/-! ### Fields -/

structure Cut where
  /-- The finished fields, the last one first. -/
  fields : List (List Piece) := []
  /-- The field that is not finished, backwards. -/
  current : List Piece := []
  /-- How the latest run is cut that is cut at all. -/
  latest : Cutting := .nowhere

namespace Cut

def isBlank (c : Char) : Bool := c == ' ' || c == '\t' || c == '\n' || c == betweenParameters

def close (cut : Cut) : Cut := { cut with fields := cut.current.reverse :: cut.fields, current := [] }

/-- Skips blanks behind a field, and one other separator among them if a blank has ended the field. -/
def skip (separators : List Char) : (blank : Bool) → List Piece → List Piece
  | blank, .char c guarded :: rest =>
    if !(c == betweenParameters || separators.contains c) then .char c guarded :: rest
    else if isBlank c then skip separators blank rest
    else if blank then skip separators false rest
    else .char c guarded :: rest
  | _, rest => rest

/-- Goes through the pieces of a run. -/
def through (separators : List Char) (only afterOnly : Bool) : (fuel : Nat) → Cut → List Piece → Cut
  | 0, cut, _ | _ + 1, cut, [] => cut
  | fuel + 1, cut, .quote :: rest => through separators only afterOnly fuel { cut with current := .quote :: cut.current } rest
  | fuel + 1, cut, .char c guarded :: rest =>
    if !(c == betweenParameters || (!only && separators.contains c)) then
      through separators only afterOnly fuel { cut with current := .char c guarded :: cut.current } rest
    else
      let blank := isBlank c && !only && !afterOnly
      if cut.current.isEmpty && blank then through separators only afterOnly fuel cut rest
      else
        let rest := if only || afterOnly then rest else skip separators blank rest
        through separators only afterOnly fuel cut.close rest

def run (separators : List Char) (cut : Cut) (r : Run) : Cut :=
  match r.cutting with
  | .nowhere => { cut with current := r.pieces.reverse ++ cut.current }
  | cutting =>
    let next := through separators (cutting == .parameters) (cut.latest == .parameters) (r.pieces.length + 1) cut r.pieces
    { next with latest := cutting }

end Cut

/-- The fields of a word. -/
def fields (separators : List Char) (runs : List Run) : List (List Piece) :=
  let cut := runs.foldl (Cut.run separators) {}
  (if cut.latest = .parameters ∨ !cut.current.isEmpty then cut.close else cut).fields.reverse

/-! ### Paths -/

/-- Whether a bracket is closed in the rest of a name. -/
def isClosed : (fuel : Nat) → List Char → Bool
  | 0, _ => false
  | fuel + 1, cs =>
    match if cs.head? = some '\\' then cs.tail else cs with
    | [] => false
    | _ :: rest => rest.head? == some ']' || isClosed fuel rest

/-- Whether a name is a pattern for other names. -/
def isPattern : (fuel : Nat) → List Char → Bool
  | 0, _ | _ + 1, [] => false
  | fuel + 1, '\\' :: rest => isPattern fuel rest.tail
  | fuel + 1, c :: rest =>
    c == '*' || c == '?' ||
      (c == '[' && isClosed rest.length (if rest.head? = some '!' then rest.tail else rest)) || isPattern fuel rest

/-- The names of a path that is a pattern. -/
def namesOf : (fuel : Nat) → (current : List Char) → List Char → List (List Char)
  | 0, current, _ | _ + 1, current, [] => [current.reverse]
  | fuel + 1, current, '\\' :: c :: rest =>
    if c = '/' then current.reverse :: namesOf fuel [] rest else namesOf fuel (c :: '\\' :: current) rest
  | fuel + 1, current, c :: rest =>
    if c = '/' then current.reverse :: namesOf fuel [] rest else namesOf fuel (c :: current) rest

def withoutBackslashes : List Char → List Char
  | '\\' :: c :: rest => c :: withoutBackslashes rest
  | c :: rest => c :: withoutBackslashes rest
  | [] => []

/-- What stands in a directory. -/
def namesIn (w : World) (directory : Octets) : List Octets :=
  match w.files.resolve w.here (if directory = "" then "." else directory) with
  | .error _ => []
  | .ok path =>
    match w.files.node? path with
    | some .directory => "." :: ".." :: w.files.children path
    | _ => []

/-- The paths below a directory that match the names of a pattern. -/
def matching (w : World) : (directory : Octets) → List (List Char) → List Octets
  | _, [] => []
  | directory, name :: rest =>
    let literal := directory ++ String.ofList (withoutBackslashes name)
    if !isPattern (name.length + 1) name then
      if rest.isEmpty then
        if directory ≠ "" ∧ (w.files.findLink w.here literal).isOk then [literal] else []
      else matching w (literal ++ "/") rest
    else
      let hidden := (withoutBackslashes (name.take 2)).head? == some '.'
      let names := (namesIn w directory).filter fun n =>
        (hidden || !n.startsWith ".") && Glob.fits ['!'] name n.toList
      if rest.isEmpty then names.map (directory ++ ·)
      else names.flatMap fun n => matching w (directory ++ n ++ "/") rest

/-- The paths that match a field, or the field itself if there are none. -/
def paths (w : World) (field : List Piece) : List Octets :=
  let p := pattern field
  let literal := pieceText field
  if !isPattern (p.length + 1) p then [literal]
  else match matching w "" (namesOf (p.length + 1) [] p) with
    | [] => [literal]
    | found => found.mergeSort fun a b => decide (a ≤ b)

end CommandPipeline.Platform.Shell
