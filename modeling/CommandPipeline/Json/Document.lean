import CommandPipeline.Document
import CommandPipeline.Json.Codec

/-! Documents as JSON. -/
namespace CommandPipeline.Json

/-! ### Writing -/

def ofStep (s : Step) : Value :=
  .object (("kind", .string s.kind.tag) ::
    match s with
    | .assign target source => [("target", .string target), ("source", .string source)]
    | .capture target command => [("target", .string target), ("command", .string command)]
    | .exec command => [("command", .string command)])

def ofInput (i : Input) : Value :=
  .object [("name", .string i.name), ("default", .string i.default)]

def ofDocument (d : Document) : Value :=
  .object [("name", .string d.name), ("inputs", .array (d.inputs.map ofInput)),
    ("declarations", ofBindings d.declarations), ("steps", .array (d.steps.map ofStep)),
    ("output", ofOption d.output)]

/-! ### Reading -/

def input? (v : Value) : Option Input := do
  match ← record? ["name", "default"] v with
  | [name, default] =>
    some ⟨← name.required Value.string?, ← default.withDefault "" Value.string?⟩
  | _ => none

/-- A step of the given kind from the value that holds its fields. -/
def stepOfKind? (kind : StepKind) (v : Value) : Option Step :=
  match kind with
  | .assign => do
    match ← record? ["target", "source"] v with
    | [target, source] =>
      some (.assign (← target.required Value.string?) (← source.required Value.string?))
    | _ => none
  | .capture => do
    match ← record? ["target", "command"] v with
    | [target, command] =>
      some (.capture (← target.required Value.string?) (← command.required Value.string?))
    | _ => none
  | .exec => do
    match ← record? ["command"] v with
    | [command] => some (.exec (← command.required Value.string?))
    | _ => none

/-- A step is an object with its kind in a field, or an array with its kind in front. -/
def step? (v : Value) : Option Step := do
  match v with
  | .object fields =>
    let kind ← StepKind.ofTag? (← (← Value.field? "kind" fields).string?)
    stepOfKind? kind (.object fields)
  | .array (tag :: items) =>
    let kind ← StepKind.ofTag? (← tag.string?)
    stepOfKind? kind (.array items)
  | _ => none

def document? (v : Value) : Option Document := do
  match ← record? ["name", "inputs", "declarations", "steps", "output"] v with
  | [name, inputs, declarations, steps, output] =>
    some {
      name := ← name.required Value.string?
      inputs := ← inputs.required (Value.list? input?)
      declarations := ← declarations.required Value.bindings?
      steps := ← steps.required (Value.list? step?)
      output := ← output.nullable Value.string? }
  | _ => none

end CommandPipeline.Json
