import CommandPipeline.Platform.Shell.Search

/-! The words of a command. The first ones are replaced first, since it depends on the command how the
others are. A command may be shown before it runs. -/
namespace CommandPipeline.Platform.Shell

open Text (Octets)

open Shell.Step

/-! ### Words of a command -/

/-- A command while it is found out what it is. -/
structure Leading where
  /-- The words that have been replaced. -/
  fields : List Octets := []
  /-- The place of the command's name among them. -/
  place : Nat := 0
  /-- The words that have not been replaced. -/
  rest : List Word
  path : Option Octets := none
  functions : Bool := true
  /-- Whether the first builtin command is a special one. -/
  special : Option Bool := none
  /-- Assignments in front are only for the command. -/
  apart : Bool := false
  /-- The shell itself becomes a program, or keeps the redirections. -/
  executes : Bool := false
  /-- Words may be assignments. -/
  assigns : Bool := false

namespace Leading

/-- Replaces words until there is one more field, and tells whether there is. -/
def fill (substitute : Command → Step Octets) (l : Leading) : List Word → Step (Leading × Bool)
  | [] => return ({ l with rest := [] }, false)
  | w :: rest => do
    let found ← wordFields substitute w
    if found.isEmpty then fill substitute l rest
    else return ({ l with fields := l.fields ++ found, rest }, true)

/-- The place of the command behind the options of `command`, if they leave one. -/
def behindOptions (substitute : Command → Step Octets) : (fuel : Nat) → Leading → (place : Nat) →
    Step (Leading × Option Nat)
  | 0, l, _ => return (l, none)
  | fuel + 1, l, place => do
    let (l, there) ← if place < l.fields.length then pure (l, true) else l.fill substitute l.rest
    match (l.fields[place]?.getD "").toList with
    | '-' :: c :: cs =>
      if !there then return (l, none)
      else if c = '-' ∧ cs.isEmpty then
        let (l, there) ← if place + 1 < l.fields.length then pure (l, true) else l.fill substitute l.rest
        return (l, if there then some (place + 1) else none)
      else if (c :: cs).all (· == 'p') then
        behindOptions substitute fuel { l with path := some usualPath } (place + 1)
      else return (l, none)
    | _ => return (l, if there then some place else none)

/-- Finds out what the command is, as far as that matters for its words. -/
def classify (substitute : Command → Step Octets) : (fuel : Nat) → Leading → Step Leading
  | 0, l => return l
  | fuel + 1, l => do
    let name := l.fields[l.place]?.getD ""
    let isFunction := l.functions && ((← memory).functions.lookup name).isSome
    if isFunction ∨ !isBuiltin name then return { l with apart := true }
    else
      let special := isSpecialBuiltin name
      let l := { l with
        assigns := assigningBuiltins.contains name
        apart := if l.special.isNone then !special else l.apart
        special := some (l.special.getD special)
        executes := name = "exec" }
      if name ≠ "command" then return l
      else
        match ← behindOptions substitute (l.rest.length + l.fields.length + 1) l (l.place + 1) with
        | (l, some place) => classify substitute fuel { l with place, functions := false }
        | (l, none) => return { l with functions := true }

/-- Replaces the words that are left. -/
def complete (substitute : Command → Step Octets) (l : Leading) : Step Leading := do
  let more ← l.rest.mapM fun w =>
    match if l.assigns then assignment? w else none with
    | some (name, value) => do return [name ++ "=" ++ (← wordText substitute true value)]
    | none => wordFields substitute w
  return { l with fields := l.fields ++ more.flatten, rest := [] }

end Leading

/-- Replaces the words of a command, and finds out what it is. -/
def leading (substitute : Command → Step Octets) (words : List Word) : Step Leading := do
  let (l, there) ← Leading.fill substitute { rest := words } words
  if there then (← l.classify substitute (words.length + l.fields.length + 1)).complete substitute
  else return l

/-! ### Texts for a user -/

/-- A text with its parameters and the output of its commands. -/
def replacedText (substitute : Command → Step Octets) (text : Octets) : Step Octets := do
  let m ← memory
  let state : ReaderState := { input := text.toList, documents := m.documents }
  let scan : Reader.Scan := { level := { kind := .double, quoted := true }, mark := some ['\n'] }
  let reader : Reader Token := do
    let c ← Reader.nextJoined
    Reader.scan (20 * text.length + 200) scan true c
  match reader.run state with
  | (.error fault, _) =>
    warn fault
    return text
  | (.ok _, r) => documentText substitute ⟨r.word, true⟩

/-- Asks a user for a line, by the text of a variable. -/
def prompt (substitute : Command → Step Octets) (name : Octets) : Step Unit := do
  Step.sayError (← replacedText substitute (((← memory).valueOf? name).getD ""))

/-- Shows a command before it runs, where the errors went before its redirections. -/
def trace (substitute : Command → Step Octets) (errors : Option Nat) (words : List Octets) : Step Unit := do
  let m ← memory
  if m.has "xtrace" then
    remember fun m => m.withOption "xtrace" false
    let front ← replacedText substitute ((m.valueOf? "PS4").getD "")
    remember fun m => m.withOption "xtrace" true
    let line := front ++ " ".intercalate words ++ "\n"
    inWorld do
      let w ← get
      match errors with
      | some stream => modify (World.connect 2 stream)
      | none => modify (World.disconnect 2)
      let _ ← World.write 2 line
      modify (putBack [(2, w.descriptors.lookup 2)])

end CommandPipeline.Platform.Shell
