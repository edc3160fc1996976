import CommandPipeline.Platform.Shell.Expansion

/-! Redirections: what the descriptors of a command lead to. -/
namespace CommandPipeline.Platform.Shell

open Text (Octets)

/-! ### Words in redirections -/

/-- A redirection whose words have been replaced. A document is replaced when it is opened. -/
inductive Aim where
  | file (descriptor : Nat) (use : FileUse) (name : Octets)
  /-- The same as another descriptor. Without one, the descriptor is closed. -/
  | duplicate (descriptor : Nat) (source : Option Nat)
  | document (descriptor : Nat) (d : Document)

/-- The descriptor that a word names. A minus sign is none. A mistake counts as one of the line that has
been read last. -/
def descriptorOf (word : Octets) : Step (Option Nat) := do
  let refuse : Step (Option Nat) := do
    Step.remember fun m => { m with line := m.lineRead }
    Step.fail "Syntax error: Bad fd number"
  match word.toList with
  | ['-'] => return none
  | [d] => if d.isDigit then return some (d.toNat - 48) else refuse
  | _ => refuse

def Redirection.aim (substitute : Command → Step Octets) : Redirection → Step Aim
  | .file descriptor use name => return .file descriptor use (← wordText substitute false name)
  | .duplicate descriptor source => do
    return .duplicate descriptor (← descriptorOf (← wordText substitute false source))
  | .document descriptor number => do
    return .document descriptor ((← Step.memory).documents[number]?.getD default)

/-- The same redirection with words of which nothing is left to replace. -/
def Redirection.settle (substitute : Command → Step Octets) : Redirection → Step Redirection
  | .file descriptor use name => return .file descriptor use (exactly (← wordText substitute false name))
  | .duplicate descriptor source => do
    let source ← wordText substitute false source
    let _ ← descriptorOf source
    return .duplicate descriptor (exactly source)
  | .document descriptor number => return .document descriptor number

/-! ### Opening -/

/-- An error with a file, where `missing` is said of files that are not there. -/
def fileErrorText (missing : String) (e : OsError) : String :=
  if e = .noEntry ∨ e = .notDirectory then missing else e.text

def openingOf : FileUse → World.Opening
  | .read => .read
  | .readWrite => .update
  | .write | .overwrite => .truncate
  | .append => .append

/-- Opens a file as asked. -/
def openFor (use : FileUse) (name : Octets) : Step Nat := do
  let refuse (e : OsError) : Step Nat :=
    Step.fail (if use = .read then "cannot open " ++ name ++ ": " ++ fileErrorText "No such file" e
      else "cannot create " ++ name ++ ": " ++ fileErrorText "Directory nonexistent" e)
  let w ← Step.world
  let guarded := use = .write && (← Step.memory).has "noclobber"
  if let .ok (.file _ _) := if guarded then w.files.find w.here name else .error .noEntry then
    Step.fail ("cannot create " ++ name ++ ": File exists")
  match ← Step.inWorld (World.openFile (openingOf use) name) with
  | .ok stream => return stream
  | .error e => refuse e

/-- A stream that a text can be read from. -/
def streamOf (text : Octets) : Act Nat := do
  let pipe ← World.addPipe
  modify fun w => { w with pipes := w.pipes.setIfInBounds pipe text }
  World.addStream { channel := .pipe pipe, readable := true, writable := false }

namespace Aim

/-- Makes a descriptor lead where it is to lead. -/
def connect (substitute : Command → Step Octets) : Aim → Step Unit
  | .file descriptor use name => do
    let stream ← openFor use name
    Step.inWorld (modify (World.connect descriptor stream))
  | .duplicate descriptor none => Step.inWorld (modify (World.disconnect descriptor))
  | .duplicate descriptor (some source) => do
    if source ≠ descriptor then
      match (← Step.world).descriptors.lookup source with
      | some stream => Step.inWorld (modify (World.connect descriptor stream))
      | none => Step.fail (toString source ++ ": " ++ OsError.badDescriptor.text)
  | .document descriptor d => do
    let stream ← Step.inWorld (streamOf (← documentText substitute d))
    Step.inWorld (modify (World.connect descriptor stream))

/-- Closes a descriptor that is to be the same as another one. -/
def clear : Aim → Step Unit
  | .duplicate descriptor (some source) =>
    if source ≠ descriptor then Step.inWorld (modify (World.disconnect descriptor)) else return ()
  | _ => return ()

/-- The descriptor that leads somewhere else afterwards. -/
def changed? : Aim → Option Nat
  | .file descriptor _ _ | .document descriptor _ | .duplicate descriptor none => some descriptor
  | .duplicate descriptor (some source) => if source = descriptor then none else some descriptor

end Aim

/-! ### Putting descriptors back -/

/-- Descriptors with the streams that they led to. -/
abbrev Held := List (Nat × Option Nat)

def held (w : World) (aims : List Aim) : Held :=
  (aims.filterMap Aim.changed?).map fun descriptor => (descriptor, w.descriptors.lookup descriptor)

def putBack (h : Held) (w : World) : World :=
  h.foldl (fun w (descriptor, stream?) => match stream? with
    | some stream => w.connect descriptor stream
    | none => w.disconnect descriptor) w

namespace Step

/-- Acts, and tells whether a mistake has ended that. -/
def attempt (act : Step Unit) : Step Bool := do
  try
    act
    return true
  catch
    | .mistake => return false
    | other => throw other

/-- Redirects, and tells whether that has worked. A mistake in what is to be the standard error is said
nowhere. -/
def redirect (substitute : Command → Step Octets) (aims : List Aim) : Step Bool :=
  attempt (aims.forM fun aim => do
    aim.clear
    aim.connect substitute)

end Step

end CommandPipeline.Platform.Shell
