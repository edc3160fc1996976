import CommandPipeline.Platform.Escape
import CommandPipeline.Platform.World

/-! The program `echo`, which writes its arguments. -/
namespace CommandPipeline.Platform.Tool

open Text (Octets)

structure EchoOptions where
  newline : Bool := true
  escapes : Bool := false

/-- Takes option letters from the front of the arguments. A word with any other letter is text. -/
def echoOptions (o : EchoOptions) : List Octets → EchoOptions × List Octets
  | [] => (o, [])
  | a :: rest =>
    match a.toList with
    | '-' :: c :: cs =>
      if (c :: cs).all fun l => l == 'n' || l == 'e' || l == 'E' then
        echoOptions ((c :: cs).foldl (fun o l =>
          if l = 'n' then { o with newline := false } else { o with escapes := l == 'e' }) o) rest
      else (o, a :: rest)
    | _ => (o, a :: rest)

/-- The text of an `echo`, with the escapes of the given set if there is one. -/
def echoText (escapes : Option EscapeSet) (newline : Bool) (args : List Octets) : Octets :=
  let text := " ".intercalate args
  let (text, ended) := match escapes with
    | some e =>
      let (cs, ended) := e.replace text
      (String.ofList cs, ended)
    | none => (text, false)
  if ended || !newline then text else text ++ "\n"

/-- A strict `echo` replaces all escapes, and has no options unless the first one is for the newline. -/
def echo : Program := fun self args => do
  let isStrict := (← get).isStrict
  let (o, args) := if isStrict && args.head? != some "-n" then ({}, args) else echoOptions {} args
  let set : EscapeSet := { leadingZero := true, hex := true }
  Printout.deliver 1 self
    { out := echoText (if o.escapes || isStrict then some set else none) o.newline args }

end CommandPipeline.Platform.Tool
