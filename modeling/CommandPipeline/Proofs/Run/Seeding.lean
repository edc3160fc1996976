import CommandPipeline.Document
import Mathlib.Tactic.SplitIfs

/-! The variables at the start of a run. There is one for each input and each declaration and no other,
and a declared value hides what an input of the same name was given. -/
namespace CommandPipeline

namespace Bindings

/-- Entries that are inserted one after another hide the older values of their names. -/
theorem get?_foldl_insert {entries : List (String × String)}
    (h : entries.Pairwise fun a b => a.1 < b.1) (b : Bindings) (name : String) :
    (entries.foldl (fun b e => b.insert e.1 e.2) b).get? name =
      (valueOf name entries).or (b.get? name) := by
  induction entries generalizing b with
  | nil => rfl
  | cons e rest ih =>
    obtain ⟨hlt, hrest⟩ := List.pairwise_cons.1 h
    rw [List.foldl_cons, ih hrest, get?_insert, valueOf]
    split_ifs with hn
    · subst hn
      simp [valueOf_eq_none_of_lt hlt]
    · rfl

end Bindings

namespace Document

variable (d : Document) (args : Arguments) (name : String)

theorem get?_vars :
    (d.vars args).get? name =
      (d.declarations.get? name).or ((bindInputs d.inputs args.values .empty).get? name) :=
  Bindings.get?_foldl_insert d.declarations.sorted _ name

/-- A document without inputs starts with its declarations. -/
theorem vars_of_inputs_eq_nil {d : Document} (h : d.inputs = []) : d.vars args = d.declarations := by
  refine Bindings.ext_get? fun name => ?_
  rw [get?_vars, h, bindInputs, Bindings.get?_empty, Option.or_none]

theorem bindInputs_cons (input : Input) (rest : List Input) (values : List String) (b : Bindings) :
    bindInputs (input :: rest) values b =
      bindInputs rest values.tail (b.insert input.name (values.head?.getD input.default)) := by
  cases values <;> rfl

theorem contains_bindInputs (inputs : List Input) (values : List String) (b : Bindings) :
    (bindInputs inputs values b).contains name = true ↔
      name ∈ inputs.map Input.name ∨ b.contains name = true := by
  induction inputs generalizing values b with
  | nil => simp [bindInputs]
  | cons i rest ih =>
    cases values <;> simp [bindInputs, ih, Bindings.contains_insert, or_left_comm, or_assoc]

/-- The names of the variables do not depend on the arguments. -/
theorem mem_names_vars :
    name ∈ (d.vars args).names ↔ name ∈ d.inputs.map Input.name ∨ name ∈ d.declarations.names := by
  have hempty : Bindings.empty.contains name = false := rfl
  have hinputs := contains_bindInputs name d.inputs args.values .empty
  simp only [hempty, Bool.false_eq_true, or_false] at hinputs
  rw [Bindings.mem_names_iff, Bindings.mem_names_iff, Bindings.contains, get?_vars, Option.isSome_or,
    Bool.or_eq_true, ← hinputs]
  exact or_comm

/-- A run of the document has a variable of this name. -/
def Binds : Prop := name ∈ d.inputs.map Input.name ∨ name ∈ d.declarations.names

theorem contains_vars : (d.vars args).contains name = true ↔ d.Binds name := by
  rw [← Bindings.mem_names_iff, mem_names_vars, Binds]

end Document

end CommandPipeline
