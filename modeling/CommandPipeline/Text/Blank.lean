/-! Blank characters are those of the Unicode property White_Space. They decide how a line is
trimmed, where a command falls into words, and what may stand between the words of a line. -/
namespace CommandPipeline.Text

/-- The code point ranges of the Unicode property White_Space. -/
def blankRanges : List (Nat × Nat) :=
  [(0x09, 0x0D), (0x20, 0x20), (0x85, 0x85), (0xA0, 0xA0), (0x1680, 0x1680), (0x2000, 0x200A),
   (0x2028, 0x2029), (0x202F, 0x202F), (0x205F, 0x205F), (0x3000, 0x3000)]

def isBlank (c : Char) : Bool :=
  blankRanges.any fun r => decide (r.1 ≤ c.toNat) && decide (c.toNat ≤ r.2)

/-! ### Trimming -/

/-- Drops the longest end of the list that satisfies `p`. -/
def dropEndWhile {α : Type} (p : α → Bool) (l : List α) : List α :=
  (l.reverse.dropWhile p).reverse

/-- The text without the blanks at its two ends. -/
def trim (cs : List Char) : List Char :=
  dropEndWhile isBlank (cs.dropWhile isBlank)

/-- What is dropped satisfies the predicate, and nothing else is lost. -/
theorem exists_append_dropEndWhile {α : Type} (p : α → Bool) (l : List α) :
    ∃ e : List α, (∀ a ∈ e, p a = true) ∧ l = dropEndWhile p l ++ e := by
  refine ⟨(l.reverse.takeWhile p).reverse, fun a ha => ?_, ?_⟩
  · have hall : (l.reverse.takeWhile p).all p = true := List.all_takeWhile
    exact List.all_eq_true.1 hall a (List.mem_reverse.1 ha)
  · rw [dropEndWhile, ← List.reverse_append, List.takeWhile_append_dropWhile, List.reverse_reverse]

/-! ### Words -/

/-- The maximal runs of characters that are not blank, in order. -/
def words : List Char → List (List Char)
  | [] => []
  | c :: cs =>
    if isBlank c then words cs
    else match cs with
      | [] => [[c]]
      | d :: _ =>
        if isBlank d then [c] :: words cs
        else match words cs with
          | [] => [[c]]
          | w :: ws => (c :: w) :: ws

theorem words_cons_blank {c : Char} (h : isBlank c = true) (cs : List Char) :
    words (c :: cs) = words cs := by
  cases cs <;> simp [words, h]

/-- A text has a word exactly if it has a character that is not blank. -/
theorem words_eq_nil_iff {cs : List Char} : words cs = [] ↔ ∀ c ∈ cs, isBlank c = true := by
  induction cs with
  | nil => simp [words]
  | cons c cs ih =>
    by_cases hc : isBlank c = true
    · simp [words_cons_blank hc, ih, hc]
    · cases cs with
      | nil => simp [words, hc]
      | cons d r => by_cases hd : isBlank d = true <;> simp only [words, hc, hd] <;> grind

end CommandPipeline.Text
