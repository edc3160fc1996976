import CommandPipeline.Proofs.CommandLine.Reasons
import CommandPipeline.Proofs.Json.Text

/-! Output for machines. With JSON wanted, the output of a run is one JSON text and the times that were
asked for, so that it is JSON as a whole unless there are such times. The output of a check of a pipeline has
a JSON text behind its summary, and is no JSON as a whole. -/
namespace CommandPipeline.CommandLine

open Run (Report)

variable {σ : Type}

/-! ### Lines behind a text -/

/-- The line ends with a mark that closes no object. -/
def EndsOpen (line : String) : Prop :=
  ∃ cs c, line.toList = cs ++ [c] ∧ c ∉ Json.spaces ∧ c ≠ '\x7d'

theorem EndsOpen.append {line : String} (h : EndsOpen line) (before : String) :
    EndsOpen (before ++ line) := by
  obtain ⟨cs, c, hline, hc⟩ := h
  exact ⟨before.toList ++ cs, c, by rw [String.toList_append, hline, List.append_assoc], hc⟩

end CommandPipeline.CommandLine
