import CommandPipeline.Proofs.Run.Seeding

/-! Arguments and the variables that they give values to. As many arguments are wanted as the document has
inputs. Of several inputs of one name the last one decides, and the argument at its own position counts,
however often names are repeated before it. A declared name keeps its declared value. -/
namespace CommandPipeline.Document

/-! ### The last input of a name -/

/-- `LastInput inputs name i input`: the last of the inputs of this name stands at position `i`. -/
structure LastInput (inputs : List Input) (name : String) (i : Nat) (input : Input) : Prop where
  found : inputs[i]? = some input
  named : input.name = name
  last : ∀ (j : Nat) (other : Input), inputs[j]? = some other → other.name = name → j ≤ i

section LastInput

variable {inputs rest : List Input} {head input input' : Input} {name : String} {i i' : Nat}

theorem LastInput.unique (h : LastInput inputs name i input) (h' : LastInput inputs name i' input') :
    i = i' ∧ input = input' := by
  have hi : i = i' := Nat.le_antisymm (h'.last i input h.found h.named) (h.last i' input' h'.found h'.named)
  subst hi
  exact ⟨rfl, Option.some.inj (h.found.symm.trans h'.found)⟩

theorem lastInput_cons_succ_iff :
    LastInput (head :: rest) name (i + 1) input ↔ LastInput rest name i input := by
  constructor
  · intro h
    refine ⟨by simpa using h.found, h.named, fun j other hother hname => ?_⟩
    have hj := h.last (j + 1) other (by simpa using hother) hname
    omega
  · intro h
    refine ⟨by simpa using h.found, h.named, fun j other hother hname => ?_⟩
    cases j with
    | zero => omega
    | succ j => exact Nat.succ_le_succ (h.last j other (by simpa using hother) hname)

theorem LastInput.notMem_rest (h : LastInput (head :: rest) name 0 input) : name ∉ rest.map Input.name := by
  intro hname
  obtain ⟨other, hother, hnamed⟩ := List.mem_map.1 hname
  obtain ⟨j, hj⟩ := List.getElem?_of_mem hother
  have hle := h.last (j + 1) other (by simpa using hj) hnamed
  omega

theorem exists_lastInput (h : name ∈ inputs.map Input.name) : ∃ i input, LastInput inputs name i input := by
  induction inputs with
  | nil => simp at h
  | cons head rest ih =>
    by_cases hrest : name ∈ rest.map Input.name
    · obtain ⟨i, input, hlast⟩ := ih hrest
      exact ⟨i + 1, input, lastInput_cons_succ_iff.2 hlast⟩
    · have hhead : head.name = name := by
        rw [List.map_cons, List.mem_cons] at h
        exact (h.resolve_right hrest).symm
      refine ⟨0, head, rfl, hhead, fun j other hother hname => ?_⟩
      cases j with
      | zero => exact Nat.le_refl 0
      | succ j =>
        have hmem : other ∈ rest := List.mem_of_getElem? (by simpa using hother)
        exact absurd (List.mem_map.2 ⟨other, hmem, hname⟩) hrest

end LastInput

/-! ### Values for the inputs -/

theorem get?_bindInputs_of_notMem {inputs : List Input} {name : String} (h : name ∉ inputs.map Input.name)
    (values : List String) (b : Bindings) : (bindInputs inputs values b).get? name = b.get? name := by
  induction inputs generalizing values b with
  | nil => rfl
  | cons head rest ih =>
    obtain ⟨hhead, hrest⟩ := not_or.1 (mt List.mem_cons.2 h)
    rw [bindInputs_cons, ih hrest, Bindings.get?_insert_of_ne b _ hhead]

/-- The induction moves the position along with the arguments, and what is bound before does not count. -/
theorem get?_bindInputs {inputs : List Input} {name : String} {i : Nat} {input : Input}
    (h : LastInput inputs name i input) (values : List String) (b : Bindings) :
    (bindInputs inputs values b).get? name = some (values[i]?.getD input.default) := by
  induction inputs generalizing i values b with
  | nil => simpa using h.found
  | cons head rest ih =>
    rw [bindInputs_cons]
    cases i with
    | zero =>
      obtain rfl : head = input := by simpa using h.found
      obtain rfl := h.named
      rw [get?_bindInputs_of_notMem h.notMem_rest, Bindings.get?_insert_self, List.head?_eq_getElem?]
    | succ i =>
      rw [ih (lastInput_cons_succ_iff.1 h), List.getElem?_tail]

theorem bindInputs_take (inputs : List Input) (values : List String) (b : Bindings) :
    bindInputs inputs (values.take inputs.length) b = bindInputs inputs values b := by
  induction inputs generalizing values b with
  | nil => rfl
  | cons head rest ih =>
    cases values with
    | nil => rfl
    | cons value values => exact ih values _

/-! ### Variables -/

/-- `Seeds d args name value`: with these arguments the variable has this value at the start of a run. -/
inductive Seeds (d : Document) (args : Arguments) (name : String) : String → Prop where
  | declared {value : String} : d.declarations.get? name = some value → Seeds d args name value
  | argument {i : Nat} {input : Input} {value : String} : name ∉ d.declarations.names →
      LastInput d.inputs name i input → args.values[i]? = some value → Seeds d args name value
  /-- The arguments have run out before the input. -/
  | byDefault {i : Nat} {input : Input} : name ∉ d.declarations.names →
      LastInput d.inputs name i input → args.values.length ≤ i → Seeds d args name input.default

section Seeds

variable {d : Document} {args : Arguments} {name value : String}

theorem get?_declarations_eq_none (h : name ∉ d.declarations.names) : d.declarations.get? name = none := by
  rw [Bindings.mem_names_iff, Bindings.contains] at h
  simpa using h

theorem get?_vars_of_lastInput {i : Nat} {input : Input} (hname : name ∉ d.declarations.names)
    (h : LastInput d.inputs name i input) :
    (d.vars args).get? name = some (args.values[i]?.getD input.default) := by
  rw [get?_vars, get?_declarations_eq_none hname, Option.none_or, get?_bindInputs h]

theorem get?_vars_of_seeds (h : d.Seeds args name value) : (d.vars args).get? name = some value := by
  cases h with
  | declared hvalue => rw [get?_vars, hvalue, Option.some_or]
  | argument hname hlast hvalue => rw [get?_vars_of_lastInput hname hlast, hvalue, Option.getD_some]
  | byDefault hname hlast hlength =>
    rw [get?_vars_of_lastInput hname hlast, List.getElem?_eq_none hlength, Option.getD_none]

/-- Every variable of a run gets its value in one of the three ways. -/
theorem exists_seeds (args : Arguments) (h : d.Binds name) : ∃ value, d.Seeds args name value := by
  by_cases hname : name ∈ d.declarations.names
  · obtain ⟨value, hvalue⟩ := Option.isSome_iff_exists.1 ((d.declarations.mem_names_iff name).1 hname)
    exact ⟨value, .declared hvalue⟩
  · obtain ⟨i, input, hlast⟩ := exists_lastInput (h.resolve_right hname)
    by_cases hi : i < args.values.length
    · exact ⟨args.values[i], .argument hname hlast (List.getElem?_eq_getElem hi)⟩
    · exact ⟨input.default, .byDefault hname hlast (Nat.le_of_not_lt hi)⟩

theorem get?_vars_eq_some_iff : (d.vars args).get? name = some value ↔ d.Seeds args name value := by
  constructor
  · intro h
    have hbinds : d.Binds name := (d.contains_vars args name).1 (Option.isSome_iff_exists.2 ⟨value, h⟩)
    obtain ⟨seeded, hseeds⟩ := exists_seeds args hbinds
    obtain rfl : seeded = value := Option.some.inj ((get?_vars_of_seeds hseeds).symm.trans h)
    exact hseeds
  · exact get?_vars_of_seeds

end Seeds

theorem bind_eq_ok_iff {d : Document} {values : List String} {args : Arguments} :
    d.bind values = .ok args ↔ values.length = d.inputs.length ∧ args.values = values := by
  unfold bind
  split_ifs with h
  · cases args
    simp [h, eq_comm]
  · simp [h]

theorem bind_eq_error_iff {d : Document} {values : List String} {e : CountError} :
    d.bind values = .error e ↔
      values.length ≠ d.inputs.length ∧ e.expected = d.inputs.length ∧ e.provided = values.length := by
  unfold bind
  split_ifs with h
  · simp [h]
  · cases e
    simp [h, eq_comm]

/-- Arguments bind exactly if there is one for each input, and the defaults are arguments that do. Whatever
the number of the arguments that a run is given, it has a variable for each input and each declaration and no
other, and the value of each is the one that `Seeds` says. Arguments behind the last input do not count. -/
theorem arguments_seed_variables :
    (∀ (d : Document) (values : List String),
      (∀ args, d.bind values = .ok args ↔ values.length = d.inputs.length ∧ args.values = values) ∧
      ∀ e, d.bind values = .error e ↔
        values.length ≠ d.inputs.length ∧ e.expected = d.inputs.length ∧ e.provided = values.length) ∧
    (∀ d : Document, d.bind (d.inputs.map Input.default) = .ok d.defaultArguments) ∧
    ∀ (d : Document) (args : Arguments),
      (∀ name, name ∈ (d.vars args).names ↔
        name ∈ d.inputs.map Input.name ∨ name ∈ d.declarations.names) ∧
      (∀ name value, (d.vars args).get? name = some value ↔ d.Seeds args name value) ∧
      d.vars ⟨args.values.take d.inputs.length⟩ = d.vars args := by
  refine ⟨fun d values => ⟨fun args => bind_eq_ok_iff, fun e => bind_eq_error_iff⟩, bind_defaults,
    fun d args => ⟨d.mem_names_vars args, fun name value => get?_vars_eq_some_iff, ?_⟩⟩
  unfold vars
  rw [bindInputs_take]

/-- The second input of the name decides, which the arguments do not reach; `b` is declared. -/
example :
    let d : Document := { inputs := [⟨"a", "1"⟩, ⟨"b", "2"⟩, ⟨"a", "3"⟩], declarations := .ofList [("b", "x")] }
    (d.vars ⟨["u", "v"]⟩).entries = [("a", "3"), ("b", "x")] := by
  decide

end CommandPipeline.Document
