import CommandPipeline.Platform.World

/-! The options of programs: letters behind a minus sign, and words behind two. -/
namespace CommandPipeline.Platform

open Text (Octets)

/-- Whether an option has a value. -/
inductive Wanting where
  | nothing
  | value
  /-- The value may be missing, and stands in the word of the option if there is one. -/
  | maybe
  deriving DecidableEq, Repr

/-- An option with a word, which may be shortened as long as it is clear. -/
structure WordOption where
  word : String
  wanting : Wanting := .nothing
  /-- The key under which it is found. -/
  key : String
  deriving DecidableEq, Repr

structure OptionSet where
  /-- The letters of the options without a value. -/
  flags : List Char := []
  /-- The letters of the options with a value. -/
  valued : List Char := []
  words : List WordOption := []
  /-- Whether options may stand behind other words. -/
  anywhere : Bool := false
  /-- The keys of options behind which all words are operands. -/
  closing : List String := []
  /-- Words that look like options but are none, and end the options. -/
  isOperand : Octets → Bool := fun _ => false

/-- The options of a command by their keys, and its other words. The key of a letter is the letter. -/
structure Parsed where
  options : List (String × Option Octets) := []
  operands : List Octets := []
  /-- What is wrong with the word behind the options, at which reading ended. -/
  fault : Option String := none

namespace Parsed

def has (p : Parsed) (key : String) : Bool := p.options.any fun o => o.1 == key

/-- The last value of an option. -/
def value? (p : Parsed) (key : String) : Option Octets :=
  (p.options.reverse.findSome? fun o => if o.1 = key then some o.2 else none).join

/-- Whether an option asks only for an explanation of the program. -/
def asksForHelp (option : String × Option Octets) : Bool := option.1 == "help" || option.1 == "version"

end Parsed

namespace OptionSet

/-- Options that have been read from a word. -/
structure Found where
  options : List (String × Option Octets) := []
  /-- The option that takes the next word as its value: its key and the complaint if there is none. -/
  waiting : Option (String × String) := none
  /-- What is wrong with the rest of the word. -/
  fault : Option String := none

/-- The letters of a word of options. -/
def letters (o : OptionSet) : List Char → Found
  | [] => {}
  | c :: rest =>
    let key := String.ofList [c]
    if o.flags.contains c then
      let found := letters o rest
      { found with options := (key, none) :: found.options }
    else if o.valued.contains c then
      if rest.isEmpty then { waiting := some (key, "option requires an argument -- '" ++ key ++ "'") }
      else { options := [(key, some (String.ofList rest))] }
    else { fault := some ("invalid option -- '" ++ key ++ "'") }

/-- The options whose word begins like this: one if the word is complete, or if all of them mean the
same. -/
def candidates (o : OptionSet) (name : String) : List WordOption :=
  match o.words.find? fun w => w.word = name with
  | some w => [w]
  | none =>
    match o.words.filter fun w => name.toList.isPrefixOf w.word.toList with
    | [] => []
    | w :: rest => if rest.all fun v => v.key = w.key ∧ v.wanting = w.wanting then [w] else w :: rest

/-- An option by its word, without the minus signs. -/
def long (o : OptionSet) (text : Octets) : Found :=
  let name := String.ofList (text.toList.takeWhile (· != '='))
  let attached : Option Octets :=
    if name.length < text.length then some (String.ofList (text.toList.drop (name.length + 1))) else none
  match o.candidates name with
  | [] => { fault := some ("unrecognized option '--" ++ text ++ "'") }
  | [w] =>
    match w.wanting, attached with
    | .nothing, some _ => { fault := some ("option '--" ++ w.word ++ "' doesn't allow an argument") }
    | .value, none => { waiting := some (w.key, "option '--" ++ w.word ++ "' requires an argument") }
    | _, value => { options := [(w.key, value)] }
  | several => { fault := some ("option '--" ++ text ++ "' is ambiguous; possibilities:" ++
      String.join (several.map fun w => " '--" ++ w.word ++ "'")) }

/-- Reads the words of a command. -/
def parse (o : OptionSet) : (waiting : Option (String × String)) → List Octets → Parsed
  | none, [] => {}
  | some (_, missing), [] => { fault := some missing }
  | some (key, _), w :: rest =>
    let p : Parsed := if o.closing.contains key then { operands := rest } else parse o none rest
    { p with options := (key, some w) :: p.options }
  | none, w :: rest =>
    let behind (found : Found) : Parsed :=
      let closed := found.options.any fun f => o.closing.contains f.1
      let p : Parsed := if found.fault.isSome then { fault := found.fault }
        else if closed then { operands := rest } else parse o found.waiting rest
      { p with options := found.options ++ p.options }
    if w = "--" then { operands := rest }
    else if o.isOperand w then { operands := w :: rest }
    else match w.toList with
      | '-' :: '-' :: cs => behind (o.long (String.ofList cs))
      | '-' :: c :: cs => behind (o.letters (c :: cs))
      | _ =>
        if o.anywhere then
          let p := parse o none rest
          { p with operands := w :: p.operands }
        else { operands := w :: rest }

/-- The options as programs of a world read them: strict ones take none behind other words. -/
def within (w : World) (o : OptionSet) : OptionSet := { o with anywhere := o.anywhere && !w.isStrict }

end OptionSet

/-- Reads the options of a program that ends with `code` if they are wrong. A program that is asked for help
does nothing else. -/
def withOptions (code : Nat) (o : OptionSet) (act : (self : Octets) → Parsed → Act Command.Ending) :
    Program := fun self args => do
  let p := (o.within (← get)).parse none args
  if p.options.any Parsed.asksForHelp then return .exited 0
  match p.fault with
  | some e => (misused code self e).deliver code self
  | none => act self p

/-! ### Values that are words -/

/-- Words that stand for values. Several words may stand for one value. -/
abbrev Choices (α : Type) := List (List String × α)

/-- The value of a word, which may be shortened as long as it is clear. -/
def Choices.value? {α : Type} (choices : Choices α) (word : Octets) : Option (Option α) :=
  match choices.find? fun c => c.1.contains word with
  | some c => some (some c.2)
  | none =>
    match choices.filter fun c => c.1.any fun w => word.toList.isPrefixOf w.toList with
    | [] => none
    | [c] => some (some c.2)
    | _ => some none

/-- The value of a word, or a complaint that shows the words that are known. -/
def Choices.choose {α : Type} (choices : Choices α) (quote : Octets → Octets) (option : String) (word : Octets) :
    Except String α :=
  let known := String.join (choices.map fun c => "\n  - " ++ ", ".intercalate (c.1.map quote))
  let wrong (kind : String) : Except String α := .error
    (kind ++ " argument " ++ quote word ++ " for " ++ quote option ++ "\nValid arguments are:" ++ known)
  match choices.value? word with
  | none => wrong "invalid"
  | some none => wrong "ambiguous"
  | some (some a) => .ok a

end CommandPipeline.Platform
