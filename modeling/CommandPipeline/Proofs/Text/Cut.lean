import CommandPipeline.Text.Blank
import CommandPipeline.Text.Lines
import Mathlib.Data.List.Basic

/-! Texts that are cut: behind a front that satisfies a predicate, at the blanks around them, and at their
newlines. Lines that hold no newline are found again in the text that they make up. -/
namespace CommandPipeline.Text

/-! ### At a predicate -/

section Predicate

variable {α : Type} {p : α → Bool} {l w r : List α}

/-- A list falls in one way into a front that satisfies `p` and a rest that does not begin so. -/
theorem takeWhile_dropWhile_iff :
    (l.takeWhile p = w ∧ l.dropWhile p = r) ↔
      l = w ++ r ∧ (∀ a ∈ w, p a = true) ∧ ∀ a ∈ r.head?, p a = false := by
  constructor
  · rintro ⟨rfl, rfl⟩
    refine ⟨List.takeWhile_append_dropWhile.symm,
      List.all_eq_true.1 List.all_takeWhile, fun a ha => ?_⟩
    have hnot := List.head?_dropWhile_not p l
    rwa [Option.mem_def.1 ha] at hnot
  · rintro ⟨rfl, hw, hr⟩
    rw [List.takeWhile_append_of_pos hw, List.dropWhile_append_of_pos hw]
    cases r with
    | nil => simp
    | cons a r => simp [hr a rfl]

theorem append_unique {w' r' : List α} (h : w ++ r = w' ++ r') (hw : ∀ a ∈ w, p a = true)
    (hw' : ∀ a ∈ w', p a = true) (hr : ∀ a ∈ r.head?, p a = false)
    (hr' : ∀ a ∈ r'.head?, p a = false) : w = w' ∧ r = r' := by
  obtain ⟨htake, hdrop⟩ := takeWhile_dropWhile_iff.2 ⟨h, hw', hr'⟩
  obtain ⟨htake', hdrop'⟩ := takeWhile_dropWhile_iff.2 ⟨rfl, hw, hr⟩
  exact ⟨htake'.symm.trans htake, hdrop'.symm.trans hdrop⟩

theorem dropWhile_eq_iff :
    l.dropWhile p = r ↔ (∃ w, (∀ a ∈ w, p a = true) ∧ l = w ++ r) ∧ ∀ a ∈ r.head?, p a = false := by
  constructor
  · intro h
    obtain ⟨hl, hw, hr⟩ := takeWhile_dropWhile_iff.1 ⟨rfl, h⟩
    exact ⟨⟨_, hw, hl⟩, hr⟩
  · rintro ⟨⟨w, hw, hl⟩, hr⟩
    exact (takeWhile_dropWhile_iff.2 ⟨hl, hw, hr⟩).2

theorem dropWhile_eq_self (h : ∀ a ∈ l.head?, p a = false) : l.dropWhile p = l :=
  dropWhile_eq_iff.2 ⟨⟨[], by simp, rfl⟩, h⟩

theorem dropEndWhile_eq_iff :
    dropEndWhile p l = r ↔ (∃ e, (∀ a ∈ e, p a = true) ∧ l = r ++ e) ∧ ∀ a ∈ r.getLast?, p a = false := by
  rw [dropEndWhile, List.reverse_eq_iff, dropWhile_eq_iff, List.head?_reverse]
  refine and_congr_left fun _ => ⟨?_, ?_⟩
  · rintro ⟨w, hw, hl⟩
    refine ⟨w.reverse, fun a ha => hw a (List.mem_reverse.1 ha), ?_⟩
    rw [← List.reverse_reverse l, hl, List.reverse_append, List.reverse_reverse]
  · rintro ⟨e, he, rfl⟩
    exact ⟨e.reverse, fun a ha => he a (List.mem_reverse.1 ha), List.reverse_append⟩

/-- What is left is the longest front of the list that does not end with an element of the kind that is
dropped. -/
theorem prefix_dropEndWhile (hw : w <+: l) (hlast : ∀ a ∈ w.getLast?, p a = false) :
    w <+: dropEndWhile p l := by
  obtain ⟨e, he, hl⟩ := exists_append_dropEndWhile p l
  rw [hl] at hw
  rcases Nat.le_total w.length (dropEndWhile p l).length with hle | hle
  · exact List.prefix_of_prefix_length_le hw (List.prefix_append _ e) hle
  · obtain ⟨t, rfl⟩ := List.prefix_of_prefix_length_le (List.prefix_append _ e) hw hle
    rw [List.prefix_append_right_inj] at hw
    cases ht : t.getLast? with
    | none =>
      obtain rfl := List.getLast?_eq_none_iff.1 ht
      exact (List.append_nil _).symm ▸ List.prefix_rfl
    | some a =>
      have ha : a ∈ (dropEndWhile p l ++ t).getLast? := by
        rw [List.getLast?_append, ht, Option.some_or, Option.mem_some]
      have hmem : a ∈ e := hw.subset (List.mem_of_getLast? ht)
      have hneg := hlast a ha
      rw [he a hmem] at hneg
      contradiction

end Predicate

/-! ### At the ends -/

section Trimming

variable {cs : List Char}

theorem head?_trim (cs : List Char) : ∀ c ∈ (trim cs).head?, isBlank c = false := by
  intro c hc
  obtain ⟨e, -, he⟩ := exists_append_dropEndWhile isBlank (cs.dropWhile isBlank)
  have hhead : (cs.dropWhile isBlank).head? = some c := by
    rw [he, List.head?_append, ← trim, Option.mem_def.1 hc, Option.some_or]
  exact (dropWhile_eq_iff.1 rfl).2 c hhead

theorem getLast?_trim (cs : List Char) : ∀ c ∈ (trim cs).getLast?, isBlank c = false := by
  intro c hc
  rw [trim, dropEndWhile, List.getLast?_reverse] at hc
  exact (dropWhile_eq_iff.1 rfl).2 c hc

/-- A text with no blank at its ends is left as it is. -/
theorem trim_eq_self (hhead : ∀ c ∈ cs.head?, isBlank c = false)
    (hlast : ∀ c ∈ cs.getLast?, isBlank c = false) : trim cs = cs := by
  rw [← List.head?_reverse] at hlast
  rw [trim, dropWhile_eq_self hhead, dropEndWhile, dropWhile_eq_self hlast, List.reverse_reverse]

theorem trim_trim (cs : List Char) : trim (trim cs) = trim cs :=
  trim_eq_self (head?_trim cs) (getLast?_trim cs)

/-- Blanks in front are trimmed away. -/
theorem trim_blanks_append {w : List Char} (hw : ∀ c ∈ w, isBlank c = true) (cs : List Char) :
    trim (w ++ cs) = trim cs := by
  rw [trim, List.dropWhile_append_of_pos hw, trim]

/-- Blanks at the end are trimmed away. -/
theorem trim_append_blanks {w : List Char} (hw : ∀ c ∈ w, isBlank c = true) (cs : List Char) :
    trim (cs ++ w) = trim cs := by
  have hreverse : ∀ c ∈ w.reverse, isBlank c = true := fun c hc => hw c (List.mem_reverse.1 hc)
  rw [trim, trim, List.dropWhile_append]
  split_ifs with hempty
  · have hnone : w.dropWhile isBlank = [] := dropWhile_eq_iff.2 ⟨⟨w, hw, by simp⟩, by simp⟩
    rw [List.isEmpty_iff.1 hempty, hnone]
  · rw [dropEndWhile, List.reverse_append, List.dropWhile_append_of_pos hreverse, dropEndWhile]

/-- Every text is its trimmed text with blanks around it. -/
theorem exists_trim (cs : List Char) :
    ∃ before after, (∀ c ∈ before, isBlank c = true) ∧ (∀ c ∈ after, isBlank c = true) ∧
      cs = before ++ trim cs ++ after := by
  obtain ⟨before, hbefore, hcs⟩ := (dropWhile_eq_iff (p := isBlank) (l := cs)).1 rfl |>.1
  obtain ⟨after, hafter, htrim⟩ := exists_append_dropEndWhile isBlank (cs.dropWhile isBlank)
  refine ⟨before, after, hbefore, hafter, ?_⟩
  rw [List.append_assoc, trim, ← htrim, ← hcs]

theorem trim_eq_nil_iff : trim cs = [] ↔ ∀ c ∈ cs, isBlank c = true := by
  constructor
  · intro h
    obtain ⟨before, after, hbefore, hafter, hcs⟩ := exists_trim cs
    rw [h, List.append_nil] at hcs
    rw [hcs]
    exact List.forall_mem_append.2 ⟨hbefore, hafter⟩
  · intro h
    rw [← List.append_nil cs, trim_blanks_append h]
    rfl

theorem mem_of_mem_trim {c : Char} (h : c ∈ trim cs) : c ∈ cs := by
  rw [trim, dropEndWhile, List.mem_reverse] at h
  have hdrop := (List.dropWhile_sublist _).subset h
  exact (List.dropWhile_sublist _).subset (List.mem_reverse.1 hdrop)

end Trimming

/-! ### At newlines -/

section Newlines

variable {cs p : List Char}

theorem pieces_of_newline_notMem (h : '\n' ∉ p) : pieces p = [p] := by
  induction p with
  | nil => rfl
  | cons c p ih =>
    obtain ⟨hc, hp⟩ := not_or.1 (mt List.mem_cons.2 h)
    simp [pieces, Ne.symm hc, ih hp]

/-- The pieces of two texts with a newline between are those of the one and then those of the other. -/
theorem pieces_append_newline (cs ds : List Char) :
    pieces (cs ++ '\n' :: ds) = pieces cs ++ pieces ds := by
  induction cs with
  | nil => exact pieces_newline ds
  | cons c cs ih =>
    obtain ⟨p, ps, hp⟩ := List.exists_cons_of_ne_nil (pieces_ne_nil cs)
    by_cases hc : c = '\n' <;> simp [pieces, hc, ih, hp]

theorem length_pieces (cs : List Char) : (pieces cs).length = cs.count '\n' + 1 := by
  induction cs with
  | nil => rfl
  | cons c cs ih =>
    obtain ⟨p, ps, hp⟩ := List.exists_cons_of_ne_nil (pieces_ne_nil cs)
    by_cases hc : c = '\n' <;> simp_all [pieces]

/-- A text without newlines in front of another lengthens its first piece. -/
theorem exists_first_piece (cs : List Char) :
    ∃ p ps, pieces cs = p :: ps ∧ ∀ w, '\n' ∉ w → pieces (w ++ cs) = (w ++ p) :: ps := by
  obtain ⟨p, ps, hp⟩ := List.exists_cons_of_ne_nil (pieces_ne_nil cs)
  refine ⟨p, ps, hp, fun w hw => ?_⟩
  induction w with
  | nil => exact hp
  | cons c w ih =>
    obtain ⟨hc, hw⟩ := not_or.1 (mt List.mem_cons.2 hw)
    simp [pieces, Ne.symm hc, ih hw]

/-- A text without newlines behind another lengthens its last piece. -/
theorem exists_last_piece (cs : List Char) :
    ∃ ps p, pieces cs = ps ++ [p] ∧ ∀ w, '\n' ∉ w → pieces (cs ++ w) = ps ++ [p ++ w] := by
  induction cs with
  | nil => exact ⟨[], [], rfl, fun w hw => pieces_of_newline_notMem hw⟩
  | cons c cs ih =>
    obtain ⟨ps, p, hp, hw⟩ := ih
    by_cases hc : c = '\n'
    · exact ⟨[] :: ps, p, by simp [pieces, hc, hp], fun w h => by simp [pieces, hc, hw w h]⟩
    · cases ps with
      | nil => exact ⟨[], c :: p, by simp [pieces, hc, hp], fun w h => by simp [pieces, hc, hw w h]⟩
      | cons q ps =>
        exact ⟨(c :: q) :: ps, p, by simp [pieces, hc, hp], fun w h => by simp [pieces, hc, hw w h]⟩

/-- The text of some lines, each ended by a newline. -/
def unlines (lines : List String) : String := String.join (lines.map (· ++ "\n"))

theorem pieces_unlines {lines : List String} (h : ∀ l ∈ lines, '\n' ∉ l.toList) :
    pieces (unlines lines).toList = lines.map String.toList ++ [[]] := by
  induction lines with
  | nil => rfl
  | cons l lines ih =>
    obtain ⟨hl, hlines⟩ := List.forall_mem_cons.1 h
    have hcons : (unlines (l :: lines)).toList = l.toList ++ '\n' :: (unlines lines).toList := by
      simp [unlines]
    rw [hcons, pieces_append_newline, pieces_of_newline_notMem hl, ih hlines]
    rfl

end Newlines

end CommandPipeline.Text
