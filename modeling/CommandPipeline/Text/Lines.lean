/-! A text falls into pieces at its newlines. -/
namespace CommandPipeline.Text

/-- The pieces between the newlines of a text. There is always one more than there are newlines. -/
def pieces : List Char → List (List Char)
  | [] => [[]]
  | c :: cs =>
    if c = '\n' then [] :: pieces cs
    else match pieces cs with
      | [] => [[c]]
      | p :: ps => (c :: p) :: ps

theorem pieces_ne_nil (cs : List Char) : pieces cs ≠ [] := by
  cases cs with
  | nil => simp [pieces]
  | cons c cs =>
    unfold pieces
    split
    · simp
    · split <;> simp

theorem pieces_newline (cs : List Char) : pieces ('\n' :: cs) = [] :: pieces cs := by
  simp [pieces]

/-- A piece holds no newline. -/
theorem newline_notMem_of_mem_pieces {cs p : List Char} (h : p ∈ pieces cs) : '\n' ∉ p := by
  induction cs generalizing p with
  | nil => simp_all [pieces]
  | cons c cs ih =>
    unfold pieces at h
    split at h
    · rcases List.mem_cons.1 h with rfl | h
      · simp
      · exact ih h
    · rename_i hc
      have hc' : ¬ '\n' = c := fun e => hc e.symm
      split at h
      · rw [List.mem_singleton.1 h]
        simp [hc']
      · rename_i q qs hq
        rcases List.mem_cons.1 h with rfl | h
        · simp [hc', ih (p := q) (by simp [hq])]
        · exact ih (by simp [hq, h])

end CommandPipeline.Text
