import CommandPipeline.Json.Document
import CommandPipeline.Proofs.Json.Codec

/-! Documents that are written as JSON are read back as they were. What is read as a document has one of a few
forms, of which the written one is the fullest: an object may hold other fields, an output and a default may be
missing, and a record may be an array of its fields. -/
namespace CommandPipeline.Json

/-! ### Inputs -/

/-- `InputForm v i`: the value `v` is a form of the input `i`. -/
inductive InputForm : Value → Input → Prop where
  | object {fields : List (String × Value)} {i : Input} :
      Value.field? "name" fields = some (.string i.name) →
      (Value.field? "default" fields).getD (.string "") = .string i.default →
      InputForm (.object fields) i
  | name (name : String) : InputForm (.array [.string name]) ⟨name, ""⟩
  | pair (name default : String) : InputForm (.array [.string name, .string default]) ⟨name, default⟩

theorem inputForm_ofInput (i : Input) : InputForm (ofInput i) i := .object rfl rfl

theorem input?_object_eq_some_iff {fields : List (String × Value)} {i : Input} :
    input? (.object fields) = some i ↔
      Value.field? "name" fields = some (.string i.name) ∧
        (Value.field? "default" fields).getD (.string "") = .string i.default := by
  simp only [input?, record?_object, List.map_cons, List.map_nil, Option.bind_eq_bind, Option.bind_some,
    Option.bind_eq_some_iff, Option.some.injEq, requiredText_found_eq_some_iff,
    withDefault_found_eq_some_iff]
  constructor
  · rintro ⟨name, hname, default, hdefault, rfl⟩
    exact ⟨hname, hdefault⟩
  · rintro ⟨hname, hdefault⟩
    exact ⟨_, hname, _, hdefault, rfl⟩

theorem inputForm_of_array {items : List Value} {i : Input} (h : input? (.array items) = some i) :
    InputForm (.array items) i := by
  rcases items with _ | ⟨name, _ | ⟨default, _ | ⟨other, rest⟩⟩⟩
  · simp [input?, record?, positional, Found.required] at h
  · simp only [input?, record?, positional, Option.map_some, Option.bind_eq_bind, Option.bind_some,
      Found.required, Found.withDefault, Option.bind_eq_some_iff, string?_eq_some_iff,
      Option.some.injEq] at h
    obtain ⟨name, rfl, rfl⟩ := h
    exact .name name
  · simp only [input?, record?, positional, Option.map_some, Option.bind_eq_bind, Option.bind_some,
      Found.required, Found.withDefault, Option.bind_eq_some_iff, string?_eq_some_iff,
      Option.some.injEq] at h
    obtain ⟨name, rfl, default, rfl, rfl⟩ := h
    exact .pair name default
  · simp [input?, record?, positional] at h

theorem input?_eq_some_iff {v : Value} {i : Input} : input? v = some i ↔ InputForm v i := by
  constructor
  · intro h
    cases v with
    | object fields =>
      obtain ⟨hname, hdefault⟩ := input?_object_eq_some_iff.1 h
      exact .object hname hdefault
    | array items => exact inputForm_of_array h
    | _ => simp [input?, record?] at h
  · rintro (⟨hname, hdefault⟩ | name | ⟨name, default⟩)
    · exact input?_object_eq_some_iff.2 ⟨hname, hdefault⟩
    · rfl
    · rfl

/-! ### Steps -/

/-- The fields of a step beside its kind. -/
def stepFields : Step → List (String × Value)
  | .assign target source => [("target", .string target), ("source", .string source)]
  | .capture target command => [("target", .string target), ("command", .string command)]
  | .exec command => [("command", .string command)]

/-- `StepForm v s`: the value `v` is a form of the step `s`. -/
inductive StepForm : Value → Step → Prop where
  | object {fields : List (String × Value)} {s : Step} :
      Value.field? "kind" fields = some (.string s.kind.tag) →
      (∀ f ∈ stepFields s, Value.field? f.1 fields = some f.2) → StepForm (.object fields) s
  | array (s : Step) : StepForm (.array (.string s.kind.tag :: (stepFields s).map Prod.snd)) s

theorem stepForm_ofStep (s : Step) : StepForm (ofStep s) s := by
  cases s <;> exact .object rfl (by simp [stepFields, Value.field?])

theorem stepOfKind?_object_eq_some_iff {kind : StepKind} {fields : List (String × Value)} {s : Step} :
    stepOfKind? kind (.object fields) = some s ↔
      kind = s.kind ∧ ∀ f ∈ stepFields s, Value.field? f.1 fields = some f.2 := by
  cases kind <;>
    simp only [stepOfKind?, record?_object, List.map_cons, List.map_nil, Option.bind_eq_bind,
      Option.bind_some, Option.bind_eq_some_iff, Option.some.injEq, requiredText_found_eq_some_iff] <;>
    cases s <;> simp [stepFields, Step.kind]

theorem stepOfKind?_array_eq_some_iff {kind : StepKind} {items : List Value} {s : Step} :
    stepOfKind? kind (.array items) = some s ↔ kind = s.kind ∧ items = (stepFields s).map Prod.snd := by
  cases kind <;>
    rcases items with _ | ⟨first, _ | ⟨second, _ | ⟨third, rest⟩⟩⟩ <;>
    simp only [stepOfKind?, record?, positional, Option.map_some, Option.map_none, Option.bind_eq_bind,
      Option.bind_some, Option.bind_none, Option.bind_eq_some_iff, Option.some.injEq, Found.required,
      string?_eq_some_iff, reduceCtorEq] <;>
    cases s <;> simp [stepFields, Step.kind]

theorem ofTag?_eq_some_iff {text : String} {kind : StepKind} :
    StepKind.ofTag? text = some kind ↔ text = kind.tag := by
  constructor
  · intro h
    unfold StepKind.ofTag? at h
    split at h <;> first | contradiction | (obtain rfl := Option.some.inj h; rfl)
  · rintro rfl
    exact StepKind.ofTag?_tag kind

theorem step?_eq_some_iff {v : Value} {s : Step} : step? v = some s ↔ StepForm v s := by
  constructor
  · intro h
    unfold step? at h
    split at h
    · simp only [Option.bind_eq_bind, Option.bind_eq_some_iff, string?_eq_some_iff, ofTag?_eq_some_iff,
        stepOfKind?_object_eq_some_iff] at h
      obtain ⟨value, hvalue, tag, rfl, kind, rfl, rfl, hfields⟩ := h
      exact .object hvalue hfields
    · simp only [Option.bind_eq_bind, Option.bind_eq_some_iff, string?_eq_some_iff, ofTag?_eq_some_iff,
        stepOfKind?_array_eq_some_iff] at h
      obtain ⟨tag, rfl, kind, rfl, rfl, rfl⟩ := h
      exact .array s
    · contradiction
  · rintro (⟨hkind, hfields⟩ | s)
    · simp only [step?, hkind, Value.string?, Option.bind_eq_bind, Option.bind_some,
        StepKind.ofTag?_tag, stepOfKind?_object_eq_some_iff]
      exact ⟨trivial, hfields⟩
    · simp only [step?, Value.string?, Option.bind_eq_bind, Option.bind_some, StepKind.ofTag?_tag,
        stepOfKind?_array_eq_some_iff]
      exact ⟨trivial, trivial⟩

/-! ### Documents -/

/-- The values that the parts of a document are read from. -/
structure DocumentParts (d : Document) (name inputs declarations steps output : Value) : Prop where
  name : name = .string d.name
  inputs : ∃ items, inputs = .array items ∧ List.Forall₂ InputForm items d.inputs
  declarations : ∃ pairs, declarations = .object (textFields pairs) ∧ d.declarations = .ofList pairs
  steps : ∃ items, steps = .array items ∧ List.Forall₂ StepForm items d.steps
  output : output = ofOption d.output

/-- `DocumentForm v d`: the value `v` is a form of the document `d`. -/
inductive DocumentForm : Value → Document → Prop where
  | object {fields : List (String × Value)} {d : Document} {name inputs declarations steps : Value} :
      Value.field? "name" fields = some name → Value.field? "inputs" fields = some inputs →
      Value.field? "declarations" fields = some declarations → Value.field? "steps" fields = some steps →
      DocumentParts d name inputs declarations steps ((Value.field? "output" fields).getD .null) →
      DocumentForm (.object fields) d
  | array {d : Document} {name inputs declarations steps output : Value} :
      DocumentParts d name inputs declarations steps output →
      DocumentForm (.array [name, inputs, declarations, steps, output]) d

theorem documentForm_ofDocument (d : Document) : DocumentForm (ofDocument d) d := by
  refine .object rfl rfl rfl rfl ⟨rfl, ⟨_, rfl, ?_⟩, ⟨_, rfl, d.declarations.ofList_entries.symm⟩,
    ⟨_, rfl, ?_⟩, rfl⟩
  · rw [List.forall₂_map_left_iff]
    exact List.forall₂_same.2 fun i _ => inputForm_ofInput i
  · rw [List.forall₂_map_left_iff]
    exact List.forall₂_same.2 fun s _ => stepForm_ofStep s

theorem document?_object_eq_some_iff {fields : List (String × Value)} {d : Document} :
    document? (.object fields) = some d ↔ DocumentForm (.object fields) d := by
  simp only [document?, record?_object, List.map_cons, List.map_nil, Option.bind_eq_bind, Option.bind_some,
    Option.bind_eq_some_iff, Option.some.injEq, required_found_eq_some_iff, nullable_found_eq_some_iff,
    string?_eq_some_iff, list?_eq_some_iff, input?_eq_some_iff, step?_eq_some_iff,
    bindings?_eq_some_iff]
  constructor
  · rintro ⟨name, ⟨nameValue, hname, rfl⟩, inputs, ⟨inputsValue, hinputs, hinputForms⟩, declarations,
      ⟨declarationsValue, hdeclarations, hpairs⟩, steps, ⟨stepsValue, hsteps, hstepForms⟩, output,
      houtput, rfl⟩
    exact .object hname hinputs hdeclarations hsteps ⟨rfl, hinputForms, hpairs, hstepForms, houtput⟩
  · rintro (⟨hname, hinputs, hdeclarations, hsteps, hparts⟩ | _)
    exact ⟨_, ⟨_, hname, hparts.name⟩, _, ⟨_, hinputs, hparts.inputs⟩, _,
      ⟨_, hdeclarations, hparts.declarations⟩, _, ⟨_, hsteps, hparts.steps⟩, _, hparts.output, rfl⟩

/-- An array of the fields of a document has all of them and no other item. -/
theorem exists_items_of_document? {items : List Value} {d : Document}
    (h : document? (.array items) = some d) :
    ∃ name inputs declarations steps output, items = [name, inputs, declarations, steps, output] := by
  rcases items with _ | ⟨name, _ | ⟨inputs, _ | ⟨declarations, _ | ⟨steps, _ | ⟨output, _ | ⟨other, rest⟩⟩⟩⟩⟩⟩
  case cons.cons.cons.cons.cons.nil => exact ⟨_, _, _, _, _, rfl⟩
  all_goals simp [document?, record?, positional, Found.required, Found.nullable] at h

theorem document?_array_eq_some_iff {name inputs declarations steps output : Value} {d : Document} :
    document? (.array [name, inputs, declarations, steps, output]) = some d ↔
      DocumentParts d name inputs declarations steps output := by
  simp only [document?, record?, positional, Option.map_some, Option.bind_eq_bind, Option.bind_some,
    Option.bind_eq_some_iff, Option.some.injEq, Found.required, nullable_present_eq_some_iff,
    string?_eq_some_iff, list?_eq_some_iff, input?_eq_some_iff, step?_eq_some_iff,
    bindings?_eq_some_iff]
  constructor
  · rintro ⟨name, rfl, inputs, hinputForms, declarations, hpairs, steps, hstepForms, output, houtput, rfl⟩
    exact ⟨rfl, hinputForms, hpairs, hstepForms, houtput⟩
  · intro hparts
    exact ⟨_, hparts.name, _, hparts.inputs, _, hparts.declarations, _, hparts.steps, _, hparts.output, rfl⟩

theorem document?_eq_some_iff {v : Value} {d : Document} : document? v = some d ↔ DocumentForm v d := by
  cases v with
  | object fields => exact document?_object_eq_some_iff
  | array items =>
    constructor
    · intro h
      obtain ⟨_, _, _, _, _, rfl⟩ := exists_items_of_document? h
      exact .array (document?_array_eq_some_iff.1 h)
    · rintro (_ | hparts)
      exact document?_array_eq_some_iff.2 hparts
  | _ =>
    constructor
    · intro h
      simp [document?, record?] at h
    · rintro (_ | _)

/-- A document is read back from what it is written as. What is read as a document is exactly its forms, and
each of them is read as the written one is, so that nothing is lost if it is written anew. -/
theorem documents_survive_json :
    (∀ d, document? (ofDocument d) = some d) ∧
    (∀ v d, document? v = some d ↔ DocumentForm v d) ∧
    ∀ v, (document? v).bind (fun d => document? (ofDocument d)) = document? v := by
  have hback : ∀ d, document? (ofDocument d) = some d :=
    fun d => document?_eq_some_iff.2 (documentForm_ofDocument d)
  refine ⟨hback, fun v d => document?_eq_some_iff, fun v => ?_⟩
  cases h : document? v with
  | none => rfl
  | some d => exact hback d

/-- An input without a default, no output, and a field that no document has. -/
example :
    document? (.object [("steps", .array [.object [("kind", .string "exec"), ("command", .string "true")]]),
      ("name", .string "p"), ("inputs", .array [.array [.string "a"]]), ("declarations", .object []),
      ("author", .null)]) =
      some { name := "p", inputs := [⟨"a", ""⟩], steps := [.exec "true"] } := by
  rfl

end CommandPipeline.Json
