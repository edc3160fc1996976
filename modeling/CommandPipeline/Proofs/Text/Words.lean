import CommandPipeline.Text.Blank

/-! The words of a text, as a cut: blanks stand between them, and none of them could be longer. -/
namespace CommandPipeline.Text

/-- `Worded cs ws`: the text `cs` consists of the words `ws` and of blanks. -/
inductive Worded : List Char → List (List Char) → Prop where
  | nil : Worded [] []
  | blank {c : Char} {cs : List Char} {ws : List (List Char)} :
      isBlank c = true → Worded cs ws → Worded (c :: cs) ws
  | word {w rest : List Char} {ws : List (List Char)} :
      w ≠ [] → (∀ c ∈ w, isBlank c = false) → (∀ c ∈ rest.head?, isBlank c = true) →
      Worded rest ws → Worded (w ++ rest) (w :: ws)

/-- A word ends at a blank or with the text. -/
theorem words_append {w rest : List Char} (hne : w ≠ []) (hw : ∀ c ∈ w, isBlank c = false)
    (hrest : ∀ c ∈ rest.head?, isBlank c = true) : words (w ++ rest) = w :: words rest := by
  induction w with
  | nil => contradiction
  | cons c w ih =>
    have hc : isBlank c = false := hw c (by simp)
    cases w with
    | nil =>
      cases rest with
      | nil => simp [words, hc]
      | cons d rest => simp [words, hc, hrest d rfl]
    | cons d w =>
      have hd : isBlank d = false := hw d (by simp)
      have ih := ih (by simp) fun c hc => hw c (List.mem_cons_of_mem _ hc)
      simp only [List.cons_append] at ih ⊢
      rw [words]
      simp [hc, hd, ih]

theorem Worded.words_eq {cs : List Char} {ws : List (List Char)} (h : Worded cs ws) :
    words cs = ws := by
  induction h with
  | nil => rfl
  | blank hc _ ih => rw [words_cons_blank hc, ih]
  | word hne hw hrest _ ih => rw [words_append hne hw hrest, ih]

theorem Worded.solid {cs : List Char} {ws : List (List Char)} (h : Worded cs ws) :
    ∀ w ∈ ws, w ≠ [] ∧ ∀ c ∈ w, isBlank c = false := by
  induction h with
  | nil => exact fun w hw => absurd hw List.not_mem_nil
  | blank _ _ ih => exact ih
  | word hne hw _ _ ih => exact List.forall_mem_cons.2 ⟨⟨hne, hw⟩, ih⟩

/-- A text that begins with no blank begins with a word. -/
theorem exists_word {c : Char} (hc : isBlank c = false) (cs : List Char) :
    ∃ w rest : List Char, c :: cs = w ++ rest ∧ w ≠ [] ∧ (∀ c ∈ w, isBlank c = false) ∧
      ∀ c ∈ rest.head?, isBlank c = true := by
  induction cs generalizing c with
  | nil => exact ⟨[c], [], rfl, by simp, by simpa using hc, by simp⟩
  | cons d cs ih =>
    by_cases hd : isBlank d = true
    · exact ⟨[c], d :: cs, rfl, by simp, by simpa using hc, by simpa using hd⟩
    · obtain ⟨w, rest, hcut, -, hw, hrest⟩ := ih (by simpa using hd)
      exact ⟨c :: w, rest, by rw [hcut, List.cons_append], by simp, by simpa using ⟨hc, hw⟩, hrest⟩

/-- Every text is cut into its words. -/
theorem worded_words : ∀ cs : List Char, Worded cs (words cs)
  | [] => .nil
  | c :: cs => by
    by_cases hc : isBlank c = true
    · rw [words_cons_blank hc]
      exact .blank hc (worded_words cs)
    · obtain ⟨w, rest, hcut, hne, hw, hrest⟩ := exists_word (by simpa using hc) cs
      have hshorter : rest.length ≤ cs.length := by
        have hlength := congrArg List.length hcut
        have hpos := List.length_pos_iff.2 hne
        rw [List.length_cons, List.length_append] at hlength
        omega
      rw [hcut, words_append hne hw hrest]
      exact .word hne hw hrest (worded_words rest)
termination_by cs => cs.length

/-- Words with one blank between them end with the end of a word. -/
theorem isBlank_getLast?_intercalate {words : List String}
    (h : ∀ w ∈ words, w.toList ≠ [] ∧ ∀ c ∈ w.toList, isBlank c = false) :
    ∀ c ∈ (" ".intercalate words).toList.getLast?, isBlank c = false := by
  induction words with
  | nil => exact nofun
  | cons w rest ih =>
    cases rest with
    | nil =>
      intro c hc
      rw [String.intercalate_singleton] at hc
      exact (h w List.mem_cons_self).2 c (List.mem_of_getLast? hc)
    | cons next rest =>
      have ih := ih fun v hv => h v (List.mem_cons_of_mem w hv)
      have hne : (" ".intercalate (next :: rest)).toList ≠ [] := by
        have hnext := (h next (by simp)).1
        cases rest <;> simp_all [String.toList_intercalate]
      intro c hc
      rw [String.intercalate_cons_cons, String.toList_append, List.getLast?_append,
        List.getLast?_eq_some_getLast hne, Option.some_or, ← List.getLast?_eq_some_getLast hne] at hc
      exact ih c hc

end CommandPipeline.Text
