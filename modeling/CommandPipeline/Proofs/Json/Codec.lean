import CommandPipeline.Json.Codec
import CommandPipeline.Proofs.Run.Seeding
import Mathlib.Data.List.Forall2

/-! The readers of the parts that records are made of, as equations: each accepts a value exactly if the
value is written in the way that is said here. Variables are found again in the object that they are
written as. -/
namespace CommandPipeline

/-- Entries in the order of their names make up the variables that they are taken from. -/
theorem Bindings.ofList_entries (b : Bindings) : .ofList b.entries = b := by
  refine ext_get? fun name => ?_
  rw [ofList, get?_foldl_insert b.sorted, get?_empty, Option.or_none]
  rfl

namespace Json

variable {α : Type} {read : Value → Option α} {v : Value} {a : α}

/-! ### Values -/

theorem string?_eq_some_iff {s : String} : v.string? = some s ↔ v = .string s := by
  cases v <;> simp [Value.string?]

theorem mapM_eq_some_iff {β : Type} {read : β → Option α} {items : List β} {l : List α} :
    items.mapM read = some l ↔ List.Forall₂ (fun v a => read v = some a) items l := by
  induction items generalizing l with
  | nil => cases l <;> simp
  | cons v items ih =>
    simp only [List.mapM_cons, List.forall₂_cons_left_iff, ← ih, Option.bind_eq_bind,
      Option.bind_eq_some_iff, Option.pure_def, Option.some.injEq]
    constructor
    · rintro ⟨a, ha, l, hl, rfl⟩
      exact ⟨a, l, ha, hl, rfl⟩
    · rintro ⟨a, l, ha, hl, rfl⟩
      exact ⟨a, ha, l, hl, rfl⟩

/-- A list is read from an array, item by item. -/
theorem list?_eq_some_iff {l : List α} :
    v.list? read = some l ↔
      ∃ items, v = .array items ∧ List.Forall₂ (fun v a => read v = some a) items l := by
  cases v <;> simp [Value.list?, mapM_eq_some_iff]

/-- The fields of an object in which names have texts. -/
def textFields (pairs : List (String × String)) : List (String × Value) :=
  pairs.map fun e => (e.1, .string e.2)

theorem textField?_eq_some_iff {f : String × Value} {e : String × String} :
    (f.2.string?.map fun s => (f.1, s)) = some e ↔ f = (e.1, .string e.2) := by
  simp only [Option.map_eq_some_iff, string?_eq_some_iff, Prod.ext_iff]
  constructor
  · rintro ⟨s, hs, hname, rfl⟩
    exact ⟨hname, hs⟩
  · rintro ⟨hname, hs⟩
    exact ⟨e.2, hs, hname, rfl⟩

/-- Variables are read from an object whose values are texts, of which the last one of a name counts. -/
theorem bindings?_eq_some_iff {b : Bindings} :
    v.bindings? = some b ↔ ∃ pairs, v = .object (textFields pairs) ∧ b = .ofList pairs := by
  cases v with
  | object fields =>
    have hfields : ∀ pairs, (fields.mapM fun (f : String × Value) => f.2.string?.map fun s => (f.1, s)) =
        some pairs ↔ fields = textFields pairs := by
      intro pairs
      simp only [mapM_eq_some_iff, textField?_eq_some_iff]
      rw [← List.forall₂_map_right_iff (f := fun e : String × String => (e.1, Value.string e.2)),
        List.forall₂_eq_eq_eq, textFields]
    simp only [Value.bindings?, Option.map_eq_some_iff, hfields, Value.object.injEq, eq_comm (a := b)]
  | _ => simp [Value.bindings?]

/-! ### Fields of objects -/

/-- The field of a name as an object has it. -/
def found (fields : List (String × Value)) (name : String) : Found :=
  match Value.field? name fields with
  | some v => .present v
  | none => .missing

theorem record?_object (names : List String) (fields : List (String × Value)) :
    record? names (.object fields) = some (names.map (found fields)) := rfl

section Found

variable {fields : List (String × Value)} {name : String}

theorem required_found_eq_some_iff :
    (found fields name).required read = some a ↔
      ∃ v, Value.field? name fields = some v ∧ read v = some a := by
  unfold found
  cases Value.field? name fields <;> simp [Found.required]

theorem requiredText_found_eq_some_iff {s : String} :
    (found fields name).required Value.string? = some s ↔
      Value.field? name fields = some (.string s) := by
  simp only [required_found_eq_some_iff, string?_eq_some_iff, exists_eq_right]

/-- A text that is missing is the default. -/
theorem withDefault_found_eq_some_iff {default s : String} :
    (found fields name).withDefault default Value.string? = some s ↔
      (Value.field? name fields).getD (.string default) = .string s := by
  unfold found
  cases Value.field? name fields <;> simp [Found.withDefault, string?_eq_some_iff]

theorem nullable_present_eq_some_iff {o : Option String} :
    (Found.present v).nullable Value.string? = some o ↔ v = ofOption o := by
  cases v <;> cases o <;> simp [Found.nullable, Value.string?, ofOption]

/-- A text that is missing or null is none. -/
theorem nullable_found_eq_some_iff {o : Option String} :
    (found fields name).nullable Value.string? = some o ↔
      (Value.field? name fields).getD .null = ofOption o := by
  unfold found
  cases Value.field? name fields with
  | some v => exact nullable_present_eq_some_iff
  | none => cases o <;> simp [Found.nullable, ofOption]

end Found

end Json

end CommandPipeline
