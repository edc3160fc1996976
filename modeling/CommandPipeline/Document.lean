import CommandPipeline.Bindings

/-! The parsed form of a pipeline: its inputs, its declared variables, its steps and the variable
that holds its output. -/
namespace CommandPipeline

/-! ### Steps -/

inductive Step where
  /-- Copies one variable into another. -/
  | assign (target source : String)
  /-- Runs a command and stores what it writes. -/
  | capture (target command : String)
  /-- Runs a command for its effect. -/
  | exec (command : String)
  deriving DecidableEq, Repr

inductive StepKind where
  | assign
  | capture
  | exec
  deriving DecidableEq, Repr

namespace Step

def kind : Step → StepKind
  | .assign _ _ => .assign
  | .capture _ _ => .capture
  | .exec _ => .exec

/-- The step as it is written in a pipeline. -/
def render : Step → String
  | .assign target source => target ++ " = " ++ source
  | .capture target command => target ++ " = (" ++ command ++ ")"
  | .exec command => "(" ++ command ++ ")"

/-- The variable that the step stores into. -/
def target? : Step → Option String
  | .assign target _ => some target
  | .capture target _ => some target
  | .exec _ => none

/-- The variable that the step copies. -/
def source? : Step → Option String
  | .assign _ source => some source
  | .capture _ _ => none
  | .exec _ => none

/-- The command of the step, as it is written. -/
def command? : Step → Option String
  | .assign _ _ => none
  | .capture _ command => some command
  | .exec command => some command

end Step

namespace StepKind

/-- The kind as it is shown to a reader. -/
def title : StepKind → String
  | .assign => "assign"
  | .capture => "exec-assign"
  | .exec => "exec"

/-- The kind as it is written in data. -/
def tag : StepKind → String
  | .assign => "assign"
  | .capture => "exec_assign"
  | .exec => "exec"

def ofTag? : String → Option StepKind
  | "assign" => some .assign
  | "exec_assign" => some .capture
  | "exec" => some .exec
  | _ => none

theorem ofTag?_tag (k : StepKind) : ofTag? k.tag = some k := by
  cases k <;> rfl

end StepKind

/-! ### Documents -/

/-- A variable whose value comes from an argument. -/
structure Input where
  name : String
  default : String := ""
  deriving DecidableEq, Repr

structure Document where
  name : String := ""
  /-- In the order in which arguments bind to them. -/
  inputs : List Input := []
  /-- The declared variables with their first values. -/
  declarations : Bindings := .empty
  steps : List Step := []
  /-- The variable that holds the output. -/
  output : Option String := none
  deriving DecidableEq

/-! ### Arguments -/

/-- The values of a document's inputs, in the order of the inputs. -/
structure Arguments where
  values : List String
  deriving DecidableEq, Repr

/-- The number of arguments is not the number of inputs. -/
structure CountError where
  expected : Nat
  provided : Nat
  deriving DecidableEq, Repr

def CountError.message (e : CountError) : String :=
  "invalid argument count: " ++ toString e.provided ++ " provided, " ++ toString e.expected ++ " needed"

namespace Document

def bind (d : Document) (args : List String) : Except CountError Arguments :=
  if args.length = d.inputs.length then .ok ⟨args⟩
  else .error ⟨d.inputs.length, args.length⟩

def defaultArguments (d : Document) : Arguments :=
  ⟨d.inputs.map Input.default⟩

theorem bind_defaults (d : Document) : d.bind (d.inputs.map Input.default) = .ok d.defaultArguments := by
  simp [bind, defaultArguments]

/-- Gives each input its argument, or its default where the arguments have run out. A later input of
the same name wins. -/
def bindInputs : List Input → List String → Bindings → Bindings
  | [], _, b => b
  | i :: rest, [], b => bindInputs rest [] (b.insert i.name i.default)
  | i :: rest, v :: vs, b => bindInputs rest vs (b.insert i.name v)

/-- The variables at the start of a run. A declaration hides an input of the same name. -/
def vars (d : Document) (args : Arguments) : Bindings :=
  d.declarations.entries.foldl (fun b e => b.insert e.1 e.2) (bindInputs d.inputs args.values .empty)

end Document

end CommandPipeline
