import CommandPipeline.Proofs.Language.Following
import CommandPipeline.Proofs.Language.Form
import CommandPipeline.Proofs.Language.Plain

/-! The layout of a pipeline: lines that mean nothing, blanks at the ends of lines, and the marks that end
lines. Texts that differ in their layout have the same significant lines under other numbers, so reading
them gives the same document, or the same error with the number of the same line. -/
namespace CommandPipeline.Language

open Text

/-! ### Editing the layout -/

/-- A line begins behind this text. -/
def BeginsLine (cs : List Char) : Prop := cs = [] ∨ ∃ ds, cs = ds ++ ['\n']

/-- A line ends before this text. -/
def EndsLine (cs : List Char) : Prop :=
  cs = [] ∨ (∃ ds, cs = '\n' :: ds) ∨ ∃ ds, cs = '\r' :: '\n' :: ds

/-- A line that is blank, or in which a semicolon comes first. -/
def Idle (l : List Char) : Prop :=
  '\n' ∉ l ∧ (Blanks l ∨ (l.dropWhile isBlank).head? = some ';')

/-- `Respaced s t`: at one place `t` has blanks at an end of a line, or an end of a line, that `s` has not. -/
inductive Respaced : List Char → List Char → Prop where
  | indented {a w b : List Char} :
      BeginsLine a → Blanks w → '\n' ∉ w → Respaced (a ++ b) (a ++ w ++ b)
  | trailed {a w b : List Char} :
      EndsLine b → Blanks w → '\n' ∉ w → Respaced (a ++ b) (a ++ w ++ b)
  | returned {a b : List Char} : Respaced (a ++ '\n' :: b) (a ++ '\r' :: '\n' :: b)
  | ended {a : List Char} : Respaced a (a ++ ['\n'])

/-- The number that a line gets by the insertion of another one behind the first `k`. -/
def numberBehind (k n : Nat) : Nat := if n ≤ k then n else n + 1

/-- `Edit f s t`: one edit of the layout makes `t` of `s`, and line `n` becomes line `f n`. -/
inductive Edit : (Nat → Nat) → List Char → List Char → Prop where
  | inserted {a l b : List Char} :
      BeginsLine a → Idle l → Edit (numberBehind (a.count '\n')) (a ++ b) (a ++ l ++ '\n' :: b)
  | widened {s t : List Char} : Respaced s t → Edit id s t
  | narrowed {s t : List Char} : Respaced t s → Edit id s t

/-- `Relaid f s t`: edits of the layout make `t` of `s`, and line `n` becomes line `f n`. -/
inductive Relaid : (Nat → Nat) → List Char → List Char → Prop where
  | refl (s : List Char) : Relaid id s s
  | edit {f g : Nat → Nat} {s t u : List Char} : Relaid f s t → Edit g t u → Relaid (g ∘ f) s u

/-! ### Lines -/

def Line.renumber (f : Nat → Nat) (line : Line) : Line := { line with number := f line.number }

/-- Only what trimming leaves of the pieces matters. -/
theorem significantFrom_congr {ps qs : List (List Char)} (h : ps.map trim = qs.map trim) (n : Nat) :
    significantFrom n ps = significantFrom n qs := by
  induction ps generalizing qs n with
  | nil => rw [List.map_eq_nil_iff.1 h.symm]
  | cons p ps ih =>
    obtain ⟨q, rest, rfl, hq, hrest⟩ := List.map_eq_cons_iff.1 h.symm
    simp only [significantFrom, hq, ih hrest.symm]

theorem significantFrom_add (n k : Nat) (ps : List (List Char)) :
    significantFrom (n + k) ps = (significantFrom n ps).map (Line.renumber (· + k)) := by
  induction ps generalizing n with
  | nil => rfl
  | cons p ps ih =>
    simp only [significantFrom, Nat.add_right_comm n k 1, ih]
    split <;> rfl

/-- The numbers of significant lines are those of pieces. -/
theorem number_of_mem_significantFrom {line : Line} {n : Nat} {ps : List (List Char)}
    (h : line ∈ significantFrom n ps) : n ≤ line.number ∧ line.number < n + ps.length := by
  obtain ⟨hn, p, hp, -⟩ := exists_getElem_of_mem_significantFrom h
  have hlength := (List.getElem?_eq_some_iff.1 hp).1
  omega

theorem significantFrom_idle {l : List Char} (h : isSignificant (trim l) = false) (n : Nat)
    (ps : List (List Char)) : significantFrom n (l :: ps) = significantFrom (n + 1) ps := by
  simp [significantFrom, h]

/-- An idle line is not significant. -/
theorem Idle.isSignificant_trim {l : List Char} (h : Idle l) : isSignificant (trim l) = false := by
  rcases h.2 with hblank | hmark
  · have htrim : trim ([] ++ l) = trim [] := trim_append_blanks hblank []
    rw [List.nil_append] at htrim
    rw [htrim]
    rfl
  · obtain ⟨rest, hrest⟩ := List.head?_eq_some_iff.1 hmark
    obtain ⟨e, he, hcut⟩ := exists_append_dropEndWhile isBlank (l.dropWhile isBlank)
    rw [trim]
    cases htrim : dropEndWhile isBlank (l.dropWhile isBlank) with
    | nil => rfl
    | cons c cs =>
      rw [htrim, hrest, List.cons_append] at hcut
      rw [← (List.cons.inj hcut).1]
      rfl

/-! ### Lines under edits -/

/-- The pieces of a text that a line begins behind stand before those of what follows. -/
theorem BeginsLine.pieces_append {a : List Char} (h : BeginsLine a) :
    ∃ ps, ps.length = a.count '\n' ∧ ∀ b, pieces (a ++ b) = ps ++ pieces b := by
  rcases h with rfl | ⟨cs, rfl⟩
  · exact ⟨[], rfl, fun b => rfl⟩
  · refine ⟨pieces cs, by simp [length_pieces], fun b => ?_⟩
    rw [List.append_assoc, List.singleton_append, pieces_append_newline]

/-- Blanks at the end of a line are trimmed away. -/
theorem map_trim_trailed {a w b : List Char} (hb : EndsLine b) (hw : Blanks w) (hline : '\n' ∉ w) :
    (pieces (a ++ w ++ b)).map trim = (pieces (a ++ b)).map trim := by
  have last : ∀ v, Blanks v → '\n' ∉ v → (pieces (a ++ v)).map trim = (pieces a).map trim := by
    intro v hv hnot
    obtain ⟨ps, p, hp, hlast⟩ := exists_last_piece a
    simp only [hlast v hnot, hp, List.map_append, List.map_cons, trim_append_blanks hv]
  have hreturn : isBlank '\r' = true := by decide
  rcases hb with rfl | ⟨ds, rfl⟩ | ⟨ds, rfl⟩
  · simpa using last w hw hline
  · simp only [pieces_append_newline, List.map_append, last w hw hline]
  · have hjoin : ∀ cs, pieces (cs ++ '\r' :: '\n' :: ds) = pieces (cs ++ ['\r']) ++ pieces ds := by
      intro cs
      rw [List.append_cons, pieces_append_newline]
    have hwr : Blanks (w ++ ['\r']) := by
      simpa [Blanks, or_imp, forall_and, hreturn] using hw
    have hr : Blanks ['\r'] := by simpa [Blanks] using hreturn
    rw [hjoin, hjoin, List.append_assoc, List.map_append, List.map_append,
      last _ hwr (by simpa using hline), last _ hr (by simp)]

/-- Blanks and ends of lines keep every significant line with its number. -/
theorem Respaced.significantFrom_pieces {s t : List Char} (h : Respaced s t) :
    significantFrom 1 (pieces t) = significantFrom 1 (pieces s) := by
  cases h with
  | @indented a w b ha hw hline =>
    obtain ⟨ps, -, hps⟩ := ha.pieces_append
    obtain ⟨p, qs, hp, hfirst⟩ := exists_first_piece b
    refine significantFrom_congr ?_ 1
    rw [List.append_assoc, hps, hps, hfirst w hline, hp]
    simp only [List.map_append, List.map_cons, trim_blanks_append hw]
  | trailed hb hw hline => exact significantFrom_congr (map_trim_trailed hb hw hline) 1
  | @returned a b =>
    have hr : Blanks ['\r'] := List.forall_mem_singleton.2 (by decide)
    have htrail := map_trim_trailed (a := a) (.inr (.inl ⟨b, rfl⟩)) hr (by decide)
    rw [List.append_assoc, List.singleton_append] at htrail
    exact significantFrom_congr htrail 1
  | ended =>
    have hlast : ∀ n, significantFrom n [[]] = [] := fun _ => rfl
    rw [pieces_append_newline, significantFrom_append, pieces, hlast, List.append_nil]

theorem Edit.significantFrom_pieces {f : Nat → Nat} {s t : List Char} (h : Edit f s t) :
    significantFrom 1 (pieces t) = (significantFrom 1 (pieces s)).map (Line.renumber f) := by
  have same : ∀ lines : List Line, lines.map (Line.renumber id) = lines := fun lines => List.map_id lines
  cases h with
  | @inserted a l b ha hl =>
    obtain ⟨ps, hlength, hps⟩ := ha.pieces_append
    have hline : pieces (l ++ '\n' :: b) = l :: pieces b := by
      rw [pieces_append_newline, pieces_of_newline_notMem hl.1, List.singleton_append]
    have hbefore : (significantFrom 1 ps).map (Line.renumber (numberBehind (a.count '\n'))) =
        significantFrom 1 ps := by
      refine (List.map_congr_left fun line hmem => ?_).trans (List.map_id _)
      have := number_of_mem_significantFrom hmem
      simp only [Line.renumber, numberBehind, if_pos (show line.number ≤ a.count '\n' by omega), id]
    have hbehind : (significantFrom (1 + ps.length) (pieces b)).map
          (Line.renumber (numberBehind (a.count '\n'))) =
        significantFrom (1 + ps.length + 1) (pieces b) := by
      rw [significantFrom_add _ 1]
      refine List.map_congr_left fun line hmem => ?_
      have := number_of_mem_significantFrom hmem
      simp only [Line.renumber, numberBehind, if_neg (show ¬ line.number ≤ a.count '\n' by omega)]
    rw [List.append_assoc, hps, hps, hline, significantFrom_append, significantFrom_append,
      significantFrom_idle hl.isSignificant_trim, List.map_append, hbefore, hbehind]
  | widened h => rw [same, h.significantFrom_pieces]
  | narrowed h => rw [same, h.significantFrom_pieces]

theorem Relaid.significantFrom_pieces {f : Nat → Nat} {s t : List Char} (h : Relaid f s t) :
    significantFrom 1 (pieces t) = (significantFrom 1 (pieces s)).map (Line.renumber f) := by
  induction h with
  | refl => exact (List.map_id _).symm
  | edit _ hedit ih =>
    rw [hedit.significantFrom_pieces, ih, List.map_map]
    rfl

/-! ### Reading -/

def ParseError.renumber (f : Nat → Nat) : ParseError → ParseError
  | .malformed place number line => .malformed place (f number) line
  | e => e

/-- The machine reads the texts of lines only, and reports their numbers. -/
theorem Machine.run_renumber (tokens : TokenSource) (f : Nat → Nat) (place : Section) (d : Draft)
    (lines : List Line) :
    (Machine.run tokens ⟨place, d, lines.map (Line.renumber f)⟩).value =
      (Machine.run tokens ⟨place, d, lines⟩).value.mapError (ParseError.renumber f) := by
  induction lines generalizing place d with
  | nil =>
    rw [List.map_nil, run_nil]
    cases place <;> rfl
  | cons line rest ih =>
    have htext : (line.renumber f).text = line.text := rfl
    rw [List.map_cons, run_cons, run_cons, htext]
    cases follow? tokens (place, d) line.text with
    | none => rfl
    | some m => exact ih m.1 m.2

theorem parse_eq_run (tokens : TokenSource) (source : String) :
    parse tokens source = (Machine.run tokens ⟨.definition, {}, significantLines source⟩).value := rfl

/-- Editing the layout of a text keeps its significant lines in their order and gives them new numbers,
and does not change the outcome of reading it but for the number in an error. -/
theorem parse_relaid (tokens : TokenSource) {f : Nat → Nat} {source other : String}
    (h : Relaid f source.toList other.toList) :
    significantLines other = (significantLines source).map (Line.renumber f) ∧
      parse tokens other = (parse tokens source).mapError (ParseError.renumber f) := by
  have hlines : significantLines other = (significantLines source).map (Line.renumber f) :=
    h.significantFrom_pieces
  refine ⟨hlines, ?_⟩
  rw [parse_eq_run, parse_eq_run, hlines, Machine.run_renumber]

theorem parse_relaid_comment :
    ∃ f, Relaid f "pipeline p\nx y".toList "; c\npipeline p \r\nx y".toList ∧
      parse { letter := fun _ _ => 0 } "pipeline p\nx y" = .error (.malformed .declaration 2 "x y") ∧
      parse { letter := fun _ _ => 0 } "; c\npipeline p \r\nx y" =
        .error (.malformed .declaration 3 "x y") := by
  have hcomment : Edit (numberBehind 0) "pipeline p\nx y".toList "; c\npipeline p\nx y".toList :=
    .inserted (a := []) (l := "; c".toList) (.inl rfl) ⟨by decide, .inr (by decide)⟩
  have hblank : Edit id "; c\npipeline p\nx y".toList "; c\npipeline p \nx y".toList :=
    .widened (.trailed (a := "; c\npipeline p".toList) (.inr (.inl ⟨"x y".toList, rfl⟩)) blanks_space
      (by decide))
  have hreturn : Edit id "; c\npipeline p \nx y".toList "; c\npipeline p \r\nx y".toList :=
    .widened (.returned (a := "; c\npipeline p ".toList) (b := "x y".toList))
  have hrelaid := (((Relaid.refl _).edit hcomment).edit hblank).edit hreturn
  have hparse : parse { letter := fun _ _ => 0 } "pipeline p\nx y" =
      .error (.malformed .declaration 2 "x y") := by
    have hlines : significantLines "pipeline p\nx y" = [⟨1, "pipeline p"⟩, ⟨2, "x y"⟩] := rfl
    rw [parse_eq_run, hlines, Machine.run_cons]
    exact Machine.run_cons _ .declaration _ ⟨2, "x y"⟩ []
  refine ⟨_, hrelaid, hparse, ?_⟩
  rw [(parse_relaid _ hrelaid).2, hparse]
  rfl

end CommandPipeline.Language
