import CommandPipeline.Platform.Options
import CommandPipeline.Platform.Quoting

/-! The programs that look at paths as texts: `basename`, `dirname` and `pwd`. -/
namespace CommandPipeline.Platform.Tool

open Text (Octets)

def dropTrailingSlashes (cs : List Char) : List Char :=
  match (cs.reverse.dropWhile (· == '/')).reverse with
  | [] => if cs.isEmpty then [] else ['/']
  | kept => kept

/-- The last name of a path. -/
def lastName (path : List Char) : List Char :=
  match dropTrailingSlashes path with
  | ['/'] => ['/']
  | kept => (kept.reverse.takeWhile (· != '/')).reverse

/-- A name without an ending that is not all of it. -/
def withoutEnding (ending name : List Char) : List Char :=
  if !ending.isEmpty && ending.length < name.length && ending.isSuffixOf name then
    name.take (name.length - ending.length)
  else name

def basenameText (ending path : Octets) : Octets :=
  String.ofList (withoutEnding ending.toList (lastName path.toList))

def basenameOptions : OptionSet where
  flags := ['a', 'z']
  valued := ['s']
  words := [⟨"multiple", .nothing, "a"⟩, ⟨"suffix", .value, "s"⟩, ⟨"zero", .nothing, "z"⟩,
    ⟨"help", .nothing, "help"⟩, ⟨"version", .nothing, "version"⟩]

def basename : Program := withOptions 1 basenameOptions fun self p => do
  let charset := (← get).charset
  let close := if p.has "z" then "\x00" else "\n"
  let line (ending path : Octets) := basenameText ending path ++ close
  let printout : Printout := match p.operands with
    | [] => misused 1 self "missing operand"
    | path :: rest =>
      if p.has "a" || p.has "s" then
        { out := String.join ((path :: rest).map (line ((p.value? "s").getD ""))) }
      else match rest with
        | [] => { out := line "" path }
        | [ending] => { out := line ending path }
        | _ :: extra :: _ => misused 1 self ("extra operand " ++ quoteArgument charset extra)
  printout.deliver 1 self

/-- A path without its last name. -/
def parentOf (path : Octets) : Octets :=
  match dropTrailingSlashes path.toList with
  | ['/'] => "/"
  | kept =>
    match (kept.reverse.dropWhile (· != '/')).reverse with
    | [] => "."
    | parent => String.ofList (dropTrailingSlashes parent)

def dirnameOptions : OptionSet where
  flags := ['z']
  words := [⟨"zero", .nothing, "z"⟩, ⟨"help", .nothing, "help"⟩, ⟨"version", .nothing, "version"⟩]
  anywhere := true

def dirname : Program := withOptions 1 dirnameOptions fun self p =>
  let close := if p.has "z" then "\x00" else "\n"
  let printout : Printout := if p.operands.isEmpty then misused 1 self "missing operand"
    else { out := String.join (p.operands.map fun a => parentOf a ++ close) }
  printout.deliver 1 self

def pwdOptions : OptionSet where
  flags := ['L', 'P']
  words := [⟨"logical", .nothing, "L"⟩, ⟨"physical", .nothing, "P"⟩, ⟨"help", .nothing, "help"⟩,
    ⟨"version", .nothing, "version"⟩]
  anywhere := true

def pwd : Program := withOptions 1 pwdOptions fun self p => do
  let warning := if p.operands.isEmpty then "" else complaint self "ignoring non-option arguments"
  Printout.deliver 1 self { out := World.pathText (← get).here ++ "\n", err := warning }

end CommandPipeline.Platform.Tool
