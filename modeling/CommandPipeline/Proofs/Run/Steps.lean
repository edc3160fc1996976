import CommandPipeline.Run.Engine

/-! The table that running some steps leaves behind. It has an entry for each step: first those of the
steps that succeeded, then, if a step failed, the entry of that step with its error, and from there on
default entries. -/
namespace CommandPipeline.Run

variable {σ : Type}

/-- `Tabled i entries failure`: the entries of steps, of which the first has position `i`, tell that the
steps went as `failure` says. -/
inductive Tabled : Nat → List Entry → Option (Nat × RunError) → Prop where
  | nil (i : Nat) : Tabled i [] none
  | completed {i : Nat} {entry : Entry} {rest : List Entry} {failure : Option (Nat × RunError)} :
      entry.error = none → Tabled (i + 1) rest failure → Tabled i (entry :: rest) failure
  | failed {i : Nat} {entry : Entry} {rest : List Entry} {cause : RunError} :
      entry.error = some cause.message → (∀ e ∈ rest, e = {}) →
      Tabled i (entry :: rest) (some (i, cause))

/-- Running steps tables how they went. -/
theorem tabled_runSteps (runner : Command.Runner σ) (elapsed : Nat → Duration) (i : Nat)
    (steps : List Step) (vars : Bindings) (s : σ) :
    Tabled i (runSteps runner elapsed i steps vars s).entries
      (runSteps runner elapsed i steps vars s).failure := by
  fun_induction runSteps runner elapsed i steps vars s with
  | case1 i vars s => exact .nil i
  | case2 i step rest vars s p hp entry later ih => exact .completed rfl ih
  | case3 i step rest vars s p e hp entry => exact .failed rfl (by simp)

namespace Tabled

variable {i : Nat} {entries : List Entry} {failure : Option (Nat × RunError)}

theorem le {k : Nat} {cause : RunError} (h : Tabled i entries failure)
    (hf : failure = some (k, cause)) : i ≤ k ∧ k < i + entries.length := by
  induction h with
  | nil => contradiction
  | completed _ _ ih =>
    have := ih hf
    rw [List.length_cons]
    omega
  | failed =>
    obtain ⟨rfl, -⟩ := Prod.mk.inj (Option.some.inj hf)
    rw [List.length_cons]
    omega

/-- With one more step in front, one more step is entered. -/
theorem entered_succ (h : Tabled (i + 1) entries failure) (n : Nat) :
    (failure.elim (n + 1) fun f => f.1 + 1 - i) = (failure.elim n fun f => f.1 + 1 - (i + 1)) + 1 := by
  cases failure with
  | none => rfl
  | some f =>
    have := (h.le rfl).1
    simp only [Option.elim_some]
    omega

/-- Exactly the entry at the failing position has an error. -/
theorem failed_iff {j : Nat} {e : Entry} (h : Tabled i entries failure) (he : entries[j]? = some e) :
    e.failed = true ↔ failure.map Prod.fst = some (i + j) := by
  induction h generalizing j with
  | nil => simp at he
  | @completed i entry rest failure herror h ih =>
    cases j with
    | zero =>
      obtain rfl : entry = e := by simpa using he
      cases failure with
      | none => simp [Entry.failed, herror]
      | some f =>
        have hle : i + 1 ≤ f.1 := (h.le rfl).1
        have hne : f.1 ≠ i := by omega
        simp [Entry.failed, herror, hne]
    | succ j =>
      rw [ih (by simpa using he), Nat.add_right_comm, Nat.add_assoc]
  | @failed i entry rest cause herror hrest =>
    cases j with
    | zero =>
      obtain rfl : entry = e := by simpa using he
      simp [Entry.failed, herror]
    | succ j =>
      have hmem : e ∈ rest := List.mem_of_getElem? (by simpa using he)
      simp [Entry.failed, hrest e hmem]

/-- If no step failed, no entry has an error. -/
theorem error_eq_none (h : Tabled i entries failure) (hf : failure = none) :
    ∀ e ∈ entries, e.error = none := by
  induction h with
  | nil => simp
  | completed herror _ ih => simpa using ⟨herror, ih hf⟩
  | failed => contradiction

/-- Around the entry of the step that failed, the table falls into entries without an error and default
entries. -/
theorem divided {k : Nat} {cause : RunError} (h : Tabled i entries failure)
    (hf : failure = some (k, cause)) :
    ∃ (before : List Entry) (entry : Entry) (behind : List Entry),
      entries = before ++ entry :: behind ∧ k = i + before.length ∧
      (∀ e ∈ before, e.error = none) ∧ entry.error = some cause.message ∧
      ∀ e ∈ behind, e = {} := by
  induction h with
  | nil => contradiction
  | @completed i first rest failure herror _ ih =>
    obtain ⟨before, entry, behind, rfl, hk, hbefore, hentry, hbehind⟩ := ih hf
    refine ⟨first :: before, entry, behind, rfl, ?_, by simpa using ⟨herror, hbefore⟩, hentry,
      hbehind⟩
    rw [List.length_cons]
    omega
  | @failed i entry rest _ herror hrest =>
    obtain ⟨rfl, rfl⟩ := Prod.mk.inj (Option.some.inj hf)
    exact ⟨[], entry, rest, rfl, rfl, by simp, herror, hrest⟩

end Tabled

end CommandPipeline.Run
