import CommandPipeline.Language.SignificantLine
import CommandPipeline.Proofs.Text.Cut
import Mathlib.Data.List.Basic

/-! Plain lines are those that reading takes as they are: no blanks around them, no comment and no newline
inside. Every significant line is plain, and a text of plain lines has these lines, numbered from one. -/
namespace CommandPipeline.Language

open Text

structure IsPlain (text : String) : Prop where
  trimmed : trim text.toList = text.toList
  significant : isSignificant text.toList = true
  oneLine : '\n' ∉ text.toList

/-! ### Solid texts -/

/-- `Solid cs`: there are no blanks to trim at the ends of the text, and it begins no comment. -/
def Solid (cs : List Char) : Prop :=
  (∃ c, cs.head? = some c ∧ isBlank c = false ∧ c ≠ ';') ∧ ∃ c, cs.getLast? = some c ∧ isBlank c = false

theorem solid_singleton {c : Char} (hblank : isBlank c = false) (hmark : c ≠ ';') : Solid [c] :=
  ⟨⟨c, rfl, hblank, hmark⟩, c, rfl, hblank⟩

/-- Only the ends of a text matter. -/
theorem Solid.append {front back : List Char} (hfront : Solid front) (middle : List Char)
    (hback : Solid back) : Solid (front ++ middle ++ back) := by
  obtain ⟨⟨c, hhead, hc⟩, -⟩ := hfront
  obtain ⟨-, d, hlast, hd⟩ := hback
  refine ⟨⟨c, ?_, hc⟩, d, ?_, hd⟩
  · rw [List.append_assoc, List.head?_append, hhead, Option.some_or]
  · rw [List.getLast?_append, hlast, Option.some_or]

theorem Solid.isPlain {text : String} (h : Solid text.toList) (hline : '\n' ∉ text.toList) :
    IsPlain text := by
  obtain ⟨⟨c, hhead, hc, hmark⟩, d, hlast, hd⟩ := h
  refine ⟨trim_eq_self ?_ ?_, ?_, hline⟩
  · simpa [hhead] using hc
  · simpa [hlast] using hd
  · obtain ⟨rest, hrest⟩ := List.head?_eq_some_iff.1 hhead
    simpa [hrest, isSignificant] using hmark

/-! ### Significant lines -/

/-- A significant line is a trimmed piece, and its number tells which. -/
theorem exists_getElem_of_mem_significantFrom {line : Line} {n : Nat} {ps : List (List Char)}
    (h : line ∈ significantFrom n ps) :
    n ≤ line.number ∧ ∃ p, ps[line.number - n]? = some p ∧ line.text = String.ofList (trim p) ∧
      isSignificant (trim p) = true := by
  induction ps generalizing n with
  | nil => simp [significantFrom] at h
  | cons p ps ih =>
    have later : line ∈ significantFrom (n + 1) ps → n ≤ line.number ∧
        ∃ q, (p :: ps)[line.number - n]? = some q ∧ line.text = String.ofList (trim q) ∧
          isSignificant (trim q) = true := by
      intro h
      obtain ⟨hn, q, hq, htext, hsig⟩ := ih h
      have hnumber : line.number - n = line.number - (n + 1) + 1 := by omega
      exact ⟨by omega, q, by rw [hnumber, List.getElem?_cons_succ, hq], htext, hsig⟩
    simp only [significantFrom] at h
    split_ifs at h with hp
    · rcases List.mem_cons.1 h with rfl | h
      · exact ⟨Nat.le_refl _, p, by simp, rfl, hp⟩
      · exact later h
    · exact later h

/-- Each significant line is the trimmed line of its number in the text. -/
theorem exists_piece {source : String} {line : Line} (h : line ∈ significantLines source) :
    1 ≤ line.number ∧
      ∃ p, (pieces source.toList)[line.number - 1]? = some p ∧ line.text = String.ofList (trim p) := by
  obtain ⟨hn, p, hp, htext, -⟩ := exists_getElem_of_mem_significantFrom h
  exact ⟨hn, p, hp, htext⟩

theorem isPlain_of_mem_significantLines {source : String} {line : Line}
    (h : line ∈ significantLines source) : IsPlain line.text := by
  obtain ⟨-, p, hp, htext, hsig⟩ := exists_getElem_of_mem_significantFrom h
  have hline : '\n' ∉ p := newline_notMem_of_mem_pieces (List.mem_of_getElem? hp)
  rw [htext]
  refine ⟨?_, ?_, ?_⟩
  · rw [String.toList_ofList, trim_trim]
  · rwa [String.toList_ofList]
  · rw [String.toList_ofList]
    exact fun h => hline (mem_of_mem_trim h)

/-- Plain lines are numbered one after another. -/
theorem significantFrom_plain {lines : List String} (h : ∀ l ∈ lines, IsPlain l) (n : Nat) :
    significantFrom n (lines.map String.toList ++ [[]]) =
      (lines.zipIdx n).map fun l => ⟨l.2, l.1⟩ := by
  induction lines generalizing n with
  | nil => rfl
  | cons l lines ih =>
    obtain ⟨hl, hlines⟩ := List.forall_mem_cons.1 h
    simp [significantFrom, hl.trimmed, hl.significant, ih hlines]

theorem significantLines_unlines {lines : List String} (h : ∀ l ∈ lines, IsPlain l) :
    significantLines (unlines lines) = (lines.zipIdx 1).map fun l => ⟨l.2, l.1⟩ := by
  rw [significantLines, pieces_unlines fun l hl => (h l hl).oneLine, significantFrom_plain h]

/-- Plain lines are the significant lines of their text. -/
theorem map_text_significantLines_unlines {lines : List String} (h : ∀ l ∈ lines, IsPlain l) :
    (significantLines (unlines lines)).map Line.text = lines := by
  rw [significantLines_unlines h, List.map_map]
  exact List.zipIdx_map_fst 1 lines

/-- A plain line alone is a text of this one line. -/
theorem significantLines_of_isPlain {text : String} (h : IsPlain text) :
    significantLines text = [⟨1, text⟩] := by
  simp [significantLines, pieces_of_newline_notMem h.oneLine, significantFrom, h.trimmed, h.significant]

end CommandPipeline.Language
