import CommandPipeline.Language.Machine
import Mathlib.Data.List.Induction

/-! What a list of declarations leaves in a draft: its inputs in order, and under each declared name
the value of the last declaration of that name. Every random declaration draws a token of its own. -/
namespace CommandPipeline.Language

namespace Declaration

/-- The variable whose first value the declaration itself gives. -/
def declares? : Declaration → Option String
  | .use name => some name
  | .rand name => some name
  | _ => none

def input? : Declaration → Option Input
  | .read input => some input
  | _ => none

def isRand : Declaration → Bool
  | .rand _ => true
  | _ => false

/-- The value that a declaration gives its variable once `drawn` tokens have been drawn. -/
def value? (tokens : TokenSource) (drawn : Nat) : Declaration → Option String
  | .use _ => some ""
  | .rand _ => some (tokens.token drawn)
  | _ => none

end Declaration

/-- Of the declarations of `name`, the last one gives it `value`. -/
def LastGives (tokens : TokenSource) (ds : List Declaration) (name value : String) : Prop :=
  ∃ before a after, ds = before ++ a :: after ∧ a.declares? = some name ∧
    a.value? tokens (before.countP Declaration.isRand) = some value ∧
    ∀ e ∈ after, e.declares? ≠ some name

theorem not_lastGives_nil (tokens : TokenSource) (name value : String) :
    ¬ LastGives tokens [] name value := by
  rintro ⟨before, a, after, h, -⟩
  simp at h

/-- A later declaration of the same name decides alone. -/
theorem lastGives_append_singleton (tokens : TokenSource) (ds : List Declaration) (a : Declaration)
    (name value : String) :
    LastGives tokens (ds ++ [a]) name value ↔
      if a.declares? = some name then a.value? tokens (ds.countP Declaration.isRand) = some value
      else LastGives tokens ds name value := by
  constructor
  · rintro ⟨before, b, after, h, hb, hv, hafter⟩
    rcases List.eq_nil_or_concat after with rfl | ⟨after, c, rfl⟩
    · obtain ⟨rfl, hab⟩ := List.append_inj' h rfl
      obtain rfl : a = b := by simpa using hab
      simpa [hb] using hv
    · rw [List.concat_eq_append, ← List.cons_append, ← List.append_assoc] at h
      obtain ⟨rfl, hac⟩ := List.append_inj' h rfl
      obtain rfl : a = c := by simpa using hac
      rw [if_neg (hafter a (by simp))]
      exact ⟨before, b, after, rfl, hb, hv, fun e he => hafter e (by simp [he])⟩
  · split_ifs with ha
    · exact fun hv => ⟨ds, a, [], rfl, ha, hv, by simp⟩
    · rintro ⟨before, b, after, rfl, hb, hv, hafter⟩
      refine ⟨before, b, after ++ [a], by simp, hb, hv, fun e he => ?_⟩
      rcases List.mem_append.1 he with he | he
      · exact hafter e he
      · rwa [List.mem_singleton.1 he]

/-- A name has a last declaration exactly if it has one. -/
theorem exists_lastGives_iff (tokens : TokenSource) (ds : List Declaration) (name : String) :
    (∃ value, LastGives tokens ds name value) ↔ ∃ a ∈ ds, a.declares? = some name := by
  induction ds using List.reverseRecOn with
  | nil => simp [not_lastGives_nil]
  | append_singleton ds a ih =>
    simp only [lastGives_append_singleton]
    by_cases ha : a.declares? = some name
    · have hv : ∃ value, a.value? tokens (ds.countP Declaration.isRand) = some value := by
        cases a <;> simp_all [Declaration.declares?, Declaration.value?]
      simpa [ha] using hv
    · simp [ha, ih]

namespace Draft

variable (tokens : TokenSource)

/-- The draft after several declarations. -/
def declareAll (d : Draft) (ds : List Declaration) : Draft := ds.foldl (addDeclaration tokens) d

theorem declareAll_append_singleton (d : Draft) (ds : List Declaration) (a : Declaration) :
    d.declareAll tokens (ds ++ [a]) = (d.declareAll tokens ds).addDeclaration tokens a := by
  simp [declareAll]

theorem drawn_declareAll (d : Draft) (ds : List Declaration) :
    (d.declareAll tokens ds).drawn = d.drawn + ds.countP Declaration.isRand := by
  induction ds using List.reverseRecOn with
  | nil => rfl
  | append_singleton ds a ih =>
    rw [declareAll_append_singleton, List.countP_append, ← Nat.add_assoc, ← ih]
    cases a <;> rfl

theorem inputs_declareAll (d : Draft) (ds : List Declaration) :
    (d.declareAll tokens ds).document.inputs =
      d.document.inputs ++ ds.filterMap Declaration.input? := by
  induction ds using List.reverseRecOn with
  | nil => simp [declareAll]
  | append_singleton ds a ih =>
    rw [declareAll_append_singleton, List.filterMap_append, ← List.append_assoc, ← ih]
    cases a <;> simp [addDeclaration, declare, Declaration.input?]

/-- Declarations keep the name, the steps and the output of a draft. -/
theorem kept_declareAll (d : Draft) (ds : List Declaration) :
    (d.declareAll tokens ds).document.name = d.document.name ∧
      (d.declareAll tokens ds).document.steps = d.document.steps ∧
      (d.declareAll tokens ds).document.output = d.document.output := by
  induction ds using List.reverseRecOn with
  | nil => exact ⟨rfl, rfl, rfl⟩
  | append_singleton ds a ih =>
    rw [declareAll_append_singleton]
    cases a <;> exact ih

theorem get?_addDeclaration (d : Draft) (a : Declaration) (name : String) :
    (d.addDeclaration tokens a).document.declarations.get? name =
      if a.declares? = some name then a.value? tokens d.drawn
      else d.document.declarations.get? name := by
  cases a with
  | use other | rand other =>
    simp [addDeclaration, declare, Declaration.declares?, Declaration.value?, Bindings.get?_insert,
      eq_comm]
  | read _ | begin => rfl

/-- Declarations that start from nothing leave each variable with what its last declaration gave. -/
theorem get?_declareAll {d : Draft} (hd : d.document.declarations = .empty) (hn : d.drawn = 0)
    (ds : List Declaration) (name value : String) :
    (d.declareAll tokens ds).document.declarations.get? name = some value ↔
      LastGives tokens ds name value := by
  induction ds using List.reverseRecOn with
  | nil => simp [declareAll, hd, Bindings.get?_empty, not_lastGives_nil]
  | append_singleton ds a ih =>
    rw [declareAll_append_singleton, get?_addDeclaration, lastGives_append_singleton,
      drawn_declareAll, hn, Nat.zero_add]
    split_ifs
    · rfl
    · exact ih

end Draft

end CommandPipeline.Language
