import CommandPipeline.Text.Blank
import CommandPipeline.Text.Lines

/-! The lines of a pipeline that mean something: trimmed, numbered as in the text, and neither blank
nor a comment. -/
namespace CommandPipeline.Language

/-- A trimmed line with its number in the text, which counts from one. -/
structure Line where
  number : Nat
  text : String
  deriving DecidableEq, Repr

/-- A line that is not blank and not a comment. -/
def isSignificant : List Char → Bool
  | [] => false
  | c :: _ => c != ';'

/-- The significant ones of the pieces of a text, of which the first has the given number. -/
def significantFrom : Nat → List (List Char) → List Line
  | _, [] => []
  | n, p :: ps =>
    let text := Text.trim p
    if isSignificant text then ⟨n, String.ofList text⟩ :: significantFrom (n + 1) ps
    else significantFrom (n + 1) ps

def significantLines (source : String) : List Line :=
  significantFrom 1 (Text.pieces source.toList)

theorem significantFrom_append (n : Nat) (ps qs : List (List Char)) :
    significantFrom n (ps ++ qs) = significantFrom n ps ++ significantFrom (n + ps.length) qs := by
  induction ps generalizing n with
  | nil => simp [significantFrom]
  | cons p ps ih =>
    simp only [List.cons_append, significantFrom, ih, List.length_cons]
    split <;> simp [Nat.add_comm, Nat.add_left_comm]

end CommandPipeline.Language
