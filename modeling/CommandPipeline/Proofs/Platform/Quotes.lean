import CommandPipeline.Platform.Shell.Expansion
import CommandPipeline.Platform.Shell.Parser
import CommandPipeline.Proofs.Text.Cut
import Mathlib.Tactic.SplitIfs

/-! Texts that a shell has put in quotes, as it reads them back. Single quotes keep all characters but
themselves, and single quotes stand in double ones, so that what is read is one word that means the text and
nothing else, whatever is in the text. -/
namespace CommandPipeline.Platform.Shell

open Text (Octets)

/-! ### Words that mean a text -/

/-- `Spells w cs`: the word has the characters `cs`, none of which means anything but itself, and quotes. -/
inductive Spells : Word → List Char → Prop where
  | nil : Spells [] []
  | quote {w : Word} {cs : List Char} : Spells w cs → Spells (.quote :: w) cs
  | char {c : Char} {w : Word} {cs : List Char} : Reader.isProtected .single c = false → Spells w cs →
      Spells (.char c :: w) (c :: cs)
  | escaped {c : Char} {w : Word} {cs : List Char} : Spells w cs → Spells (.escaped c :: w) (c :: cs)

theorem Spells.append {v w : Word} {cs ds : List Char} (h : Spells v cs) (h' : Spells w ds) :
    Spells (v ++ w) (cs ++ ds) := by
  induction h with
  | nil => exact h'
  | quote _ ih => exact .quote ih
  | char hc _ ih => exact .char hc ih
  | escaped _ ih => exact .escaped ih

/-- A character between single quotes. -/
def quotedPart (c : Char) : Part := if Reader.isProtected .single c then .escaped c else .char c

theorem spells_quotedParts (cs : List Char) : Spells (cs.map quotedPart) cs := by
  induction cs with
  | nil => exact .nil
  | cons c cs ih =>
    rw [List.map_cons, quotedPart]
    split_ifs with hc
    · exact .escaped ih
    · exact .char (by simpa using hc) ih

namespace Reader

/-! ### The steps of a reader -/

/-- What is around a character that no braces are around. -/
def levelOf : Surroundings → Level
  | .double => { kind := .double, quoted := true }
  | kind => { kind }

/-- A word in the middle of which a reader is, outside of braces. -/
def scanAt (kind : Surroundings) (parts : List Part) (quoted : Bool) : Scan :=
  { level := levelOf kind, glyphs := (parts.map Glyph.part).reverse, quoted }

/-- Goes on with a word at the next character. -/
def resume (fuel : Nat) (s : Scan) : Reader Token := do
  let c ← if s.level.kind = .single then next else nextJoined
  scan fuel s false c

theorem get_bind {α : Type} (x : Reader α) : (get >>= fun _ => x) = x := rfl

/-- The beginning of a line means something in a document only. -/
theorem scan_lineStart (fuel : Nat) (kind : Surroundings) (parts : List Part) (quoted lineStart : Bool)
    (c : Option Char) :
    scan fuel (scanAt kind parts quoted) lineStart c = scan fuel (scanAt kind parts quoted) false c := by
  cases fuel with
  | zero => rfl
  | succ fuel =>
    rw [scan, scan]
    simp [scanAt, atMark]

section Steps

variable (fuel : Nat) (parts : List Part) (quoted : Bool)

theorem scan_openSingle : scan (fuel + 1) (scanAt .plain parts quoted) false (some '\'') =
    resume fuel (scanAt .single (parts ++ [.quote]) quoted) := by
  rw [scan]
  simp [scanAt, levelOf, resume, Scan.addQuote, Scan.inDocument, Scan.add]

theorem scan_openDouble : scan (fuel + 1) (scanAt .plain parts quoted) false (some '"') =
    resume fuel (scanAt .double (parts ++ [.quote]) quoted) := by
  rw [scan]
  simp [scanAt, levelOf, resume, Scan.addQuote, Scan.inDocument, Scan.add, Scan.toggle]

theorem scan_closeSingle : scan (fuel + 1) (scanAt .single parts quoted) false (some '\'') =
    resume fuel (scanAt .plain (parts ++ [.quote]) true) := by
  rw [scan]
  simp [scanAt, levelOf, resume, Scan.addQuote, Scan.inDocument, Scan.add]

theorem scan_closeDouble : scan (fuel + 1) (scanAt .double parts quoted) false (some '"') =
    resume fuel (scanAt .plain (parts ++ [.quote]) true) := by
  rw [scan]
  simp [scanAt, levelOf, resume, Scan.addQuote, Scan.inDocument, Scan.add, Scan.toggle]

theorem scan_mark : scan (fuel + 1) (scanAt .double parts quoted) false (some '\'') =
    resume fuel (scanAt .double (parts ++ [.char '\'']) quoted) := by
  rw [scan]
  simp [scanAt, levelOf, resume, Scan.inDocument, Scan.add, isProtected, get_bind]

theorem scan_newline : scan (fuel + 1) (scanAt .single parts quoted) false (some '\n') =
    newLine >>= fun _ => resume fuel (scanAt .single (parts ++ [quotedPart '\n']) quoted) := by
  have hpart : quotedPart '\n' = .char '\n' := rfl
  have hstart : ∀ c, scan fuel (scanAt .single (parts ++ [.char '\n']) quoted) true c =
      scan fuel (scanAt .single (parts ++ [.char '\n']) quoted) false c := fun c =>
    scan_lineStart fuel .single _ quoted true c
  rw [scan, hpart]
  simp only [resume, ← hstart]
  simp [scanAt, levelOf, Scan.add]

theorem scan_quoted {c : Char} (hmark : c ≠ '\'') (hline : c ≠ '\n') :
    scan (fuel + 1) (scanAt .single parts quoted) false (some c) =
      resume fuel (scanAt .single (parts ++ [quotedPart c]) quoted) := by
  have hnumber : c.toNat ≠ 0x27 := fun h => hmark (Char.toNat_inj.1 h)
  rw [scan]
  by_cases hc : isProtected .single c = true
  · simp [scanAt, levelOf, resume, Scan.inDocument, Scan.add, hline, hnumber, quotedPart, hc, get_bind]
  · simp [scanAt, levelOf, resume, Scan.inDocument, Scan.add, hline, hnumber, quotedPart, hc, get_bind]

end Steps

/-! ### What is read -/

/-- What a reader in the middle of a word answers to an input. -/
def readsFrom (st : ReaderState) (fuel : Nat) (kind : Surroundings) (parts : List Part) (quoted : Bool)
    (input : List Char) (line : Nat) : Except String Token × ReaderState :=
  (resume fuel (scanAt kind parts quoted)).run.run { st with input, line }

section Reads

variable (st : ReaderState) (fuel : Nat) (parts : List Part) (quoted : Bool) (rest : List Char) (line : Nat)

theorem joinLines_cons {c : Char} (hc : c ≠ '\\') (n : Nat) : joinLines (c :: rest) n = (c :: rest, n) := by
  unfold joinLines
  split
  · next h => exact absurd (List.cons.inj h).1 hc
  · rfl

theorem readsFrom_single (c : Char) :
    readsFrom st fuel .single parts quoted (c :: rest) line =
      (scan fuel (scanAt .single parts quoted) false (some c)).run.run { st with input := rest, line } := rfl

theorem run_nextJoined {c : Char} (hc : c ≠ '\\') :
    nextJoined.run.run { st with input := c :: rest, line } = (.ok (some c), { st with input := rest, line }) := by
  have hjoined := joinLines_cons rest hc 0
  have hstate : ({ st with input := (joinLines (c :: rest) 0).1, line := line + (joinLines (c :: rest) 0).2 } :
      ReaderState) = { st with input := c :: rest, line } := by
    rw [hjoined]
    rfl
  exact congrArg next.run.run hstate

theorem readsFrom_joined {kind : Surroundings} (hkind : (levelOf kind).kind ≠ .single) {c : Char} (hc : c ≠ '\\') :
    readsFrom st fuel kind parts quoted (c :: rest) line =
      (scan fuel (scanAt kind parts quoted) false (some c)).run.run { st with input := rest, line } := by
  unfold readsFrom resume
  rw [if_neg (by simpa [scanAt] using hkind), ExceptT.run_bind, StateT.run_bind, run_nextJoined st rest line hc]
  rfl

/-! ### Texts in quotes -/

theorem readsFrom_openSingle :
    readsFrom st (fuel + 1) .plain parts quoted ('\'' :: rest) line =
      readsFrom st fuel .single (parts ++ [.quote]) quoted rest line := by
  rw [readsFrom_joined st _ _ _ _ _ (by decide) (by decide), scan_openSingle]
  rfl

theorem readsFrom_closeSingle :
    readsFrom st (fuel + 1) .single parts quoted ('\'' :: rest) line =
      readsFrom st fuel .plain (parts ++ [.quote]) true rest line := by
  rw [readsFrom_single, scan_closeSingle]
  rfl

/-- Single quotes are read between double ones. -/
theorem readsFrom_marks (n : Nat) :
    readsFrom st (fuel + (n + 2)) .plain parts quoted ('"' :: (List.replicate n '\'' ++ '"' :: rest)) line =
      readsFrom st fuel .plain (parts ++ .quote :: (List.replicate n (.char '\'') ++ [.quote])) true rest line := by
  have hmarks : ∀ n parts,
      readsFrom st (fuel + 1 + n) .double parts quoted (List.replicate n '\'' ++ '"' :: rest) line =
        readsFrom st (fuel + 1) .double (parts ++ List.replicate n (.char '\'')) quoted ('"' :: rest) line := by
    intro n
    induction n with
    | zero => simp
    | succ n ih =>
      intro parts
      rw [List.replicate_succ, List.cons_append, ← Nat.add_assoc,
        readsFrom_joined st _ _ _ _ _ (by decide) (by decide), scan_mark]
      refine (ih _).trans ?_
      rw [List.replicate_succ, List.append_assoc]
      rfl
  rw [readsFrom_joined st _ _ _ _ _ (by decide) (by decide), show fuel + (n + 2) = fuel + 1 + n + 1 by omega,
    scan_openDouble]
  refine (hmarks n _).trans ?_
  rw [readsFrom_joined st _ _ _ _ _ (by decide) (by decide), scan_closeDouble]
  simp only [List.append_assoc, List.cons_append, List.nil_append]
  rfl

/-- Characters that are no single quotes are read between them. -/
theorem readsFrom_text {cs : List Char} (hcs : '\'' ∉ cs) :
    readsFrom st (fuel + cs.length) .single parts quoted (cs ++ rest) line =
      readsFrom st fuel .single (parts ++ cs.map quotedPart) quoted rest (line + cs.count '\n') := by
  induction cs generalizing parts line with
  | nil => simp
  | cons c cs ih =>
    have hmark : c ≠ '\'' := fun h => hcs (h ▸ List.mem_cons_self)
    have ih := fun parts line => ih parts line fun h => hcs (List.mem_cons_of_mem c h)
    rw [List.length_cons, ← Nat.add_assoc, List.cons_append, readsFrom_single, List.map_cons,
      show parts ++ quotedPart c :: cs.map quotedPart = (parts ++ [quotedPart c]) ++ cs.map quotedPart by simp]
    by_cases hline : c = '\n'
    · subst hline
      rw [scan_newline, List.count_cons_self,
        show line + (cs.count '\n' + 1) = line + 1 + cs.count '\n' by omega]
      exact ih _ (line + 1)
    · rw [scan_quoted _ _ _ hmark hline, List.count_cons_of_ne hline]
      exact ih _ line

/-- A text without single quotes is read between them. -/
theorem readsFrom_piece {cs : List Char} (hcs : '\'' ∉ cs) :
    readsFrom st (fuel + (cs.length + 2)) .plain parts quoted ('\'' :: (cs ++ '\'' :: rest)) line =
      readsFrom st fuel .plain (parts ++ .quote :: (cs.map quotedPart ++ [.quote])) true rest
        (line + cs.count '\n') := by
  rw [show fuel + (cs.length + 2) = fuel + 1 + cs.length + 1 by omega, readsFrom_openSingle,
    readsFrom_text st _ _ _ _ _ hcs, readsFrom_closeSingle]
  simp only [List.append_assoc, List.cons_append, List.nil_append]

end Reads

/-- A text is what stands before its first single quotes, these, and what stands behind them. -/
theorem exists_pieces (cs : List Char) : ∃ text n after, cs = text ++ (List.replicate n '\'' ++ after) ∧
    '\'' ∉ text ∧ (n = 0 → after = []) ∧
    ∀ fuel, singleQuotedFrom (fuel + 1) cs = '\'' :: text ++ ['\''] ++
      (if n = 0 then [] else '"' :: List.replicate n '\'' ++ ['"']) ++
      (if after = [] then [] else singleQuotedFrom fuel after) := by
  obtain ⟨text, htext⟩ : ∃ text, cs.takeWhile (· != '\'') = text := ⟨_, rfl⟩
  obtain ⟨rest, hrest⟩ : ∃ rest, cs.dropWhile (· != '\'') = rest := ⟨_, rfl⟩
  obtain ⟨marks, hmarks⟩ : ∃ marks, rest.takeWhile (· == '\'') = marks := ⟨_, rfl⟩
  obtain ⟨after, hafter⟩ : ∃ after, rest.dropWhile (· == '\'') = after := ⟨_, rfl⟩
  obtain ⟨rfl, hplain, hfirst⟩ := Text.takeWhile_dropWhile_iff.1 ⟨htext, hrest⟩
  obtain ⟨rfl, hquotes, -⟩ := Text.takeWhile_dropWhile_iff.1 ⟨hmarks, hafter⟩
  obtain ⟨n, rfl⟩ : ∃ n, marks = List.replicate n '\'' :=
    ⟨_, List.eq_replicate_of_mem fun c hc => by simpa using hquotes c hc⟩
  refine ⟨text, n, after, rfl, fun hmark => ?_, ?_, fun fuel => ?_⟩
  · exact absurd (hplain _ hmark) (by decide)
  · -- what stands behind the text begins with a single quote
    rintro rfl
    cases after with
    | nil => rfl
    | cons c after =>
      have hc : c = '\'' := by simpa using hfirst c rfl
      subst hc
      simp at hmarks
  · simp only [singleQuotedFrom, htext, List.drop_left, hmarks, List.isEmpty_iff, List.replicate_eq_nil_iff]

theorem spells_marks (n : Nat) : Spells (List.replicate n (.char '\'')) (List.replicate n '\'') := by
  induction n with
  | zero => exact .nil
  | succ n ih => exact .char (by decide) ih

/-- Behind a quote, the text is read as a word that means `cs`. -/
structure Reads (st : ReaderState) (text : List Char) (w : Word) (cs : List Char) : Prop where
  spells : Spells w cs
  length : w.length = text.length
  reads : ∀ fuel parts rest line, readsFrom st (fuel + text.length) .plain parts true (text ++ rest) line =
    readsFrom st fuel .plain (parts ++ w) true rest (line + cs.count '\n')

theorem Reads.nil (st : ReaderState) : Reads st [] [] [] where
  spells := .nil
  length := rfl
  reads fuel parts rest line := by
    rw [List.append_nil]
    rfl

theorem Reads.append {st : ReaderState} {text more : List Char} {v w : Word} {cs ds : List Char}
    (h : Reads st text v cs) (h' : Reads st more w ds) : Reads st (text ++ more) (v ++ w) (cs ++ ds) where
  spells := h.spells.append h'.spells
  length := by rw [List.length_append, List.length_append, h.length, h'.length]
  reads fuel parts rest line := by
    rw [List.length_append, Nat.add_comm text.length, ← Nat.add_assoc, List.append_assoc, h.reads, h'.reads,
      List.append_assoc, List.count_append, Nat.add_assoc]

theorem reads_piece (st : ReaderState) {cs : List Char} (hcs : '\'' ∉ cs) :
    Reads st ('\'' :: cs ++ ['\'']) (.quote :: (cs.map quotedPart ++ [.quote])) cs where
  spells := by simpa using Spells.quote ((spells_quotedParts cs).append (.quote .nil))
  length := by simp
  reads fuel parts rest line := by simpa using readsFrom_piece st fuel parts true rest line hcs

theorem reads_marks (st : ReaderState) (n : Nat) :
    Reads st ('"' :: List.replicate n '\'' ++ ['"']) (.quote :: (List.replicate n (.char '\'') ++ [.quote]))
      (List.replicate n '\'') where
  spells := by simpa using Spells.quote ((spells_marks n).append (.quote .nil))
  length := by simp
  reads fuel parts rest line := by
    have hcount : (List.replicate n '\'').count '\n' = 0 := by simp [List.count_replicate]
    simpa [hcount] using readsFrom_marks st fuel parts true rest line n

/-- What has been put in quotes is read as a word that means the text. -/
theorem exists_reads (st : ReaderState) {n : Nat} {cs : List Char} (hn : cs.length < n) :
    ∃ w, Reads st (singleQuotedFrom n cs) (.quote :: w) cs := by
  induction n generalizing cs with
  | zero => omega
  | succ n ih =>
    obtain ⟨text, marks, after, rfl, htext, hafter, hquoted⟩ := exists_pieces cs
    have hmiddle : ∃ w, Reads st (if marks = 0 then [] else '"' :: List.replicate marks '\'' ++ ['"']) w
        (List.replicate marks '\'') := by
      split_ifs with hmarks
      · subst hmarks
        exact ⟨[], .nil st⟩
      · exact ⟨_, reads_marks st marks⟩
    have hend : ∃ w, Reads st (if after = [] then [] else singleQuotedFrom n after) w after := by
      split_ifs with hnone
      · subst hnone
        exact ⟨[], .nil st⟩
      · have hmarks : marks ≠ 0 := fun hmarks => hnone (hafter hmarks)
        rw [List.length_append, List.length_append, List.length_replicate] at hn
        have hshort : after.length < n := by omega
        obtain ⟨w, hw⟩ := ih hshort
        exact ⟨_, hw⟩
    obtain ⟨v, hv⟩ := hmiddle
    obtain ⟨w, hw⟩ := hend
    rw [hquoted, List.append_assoc]
    exact ⟨_, (reads_piece st htext).append (hv.append hw)⟩

/-- It makes no difference whether there has been a quote before. -/
theorem readsFrom_unquoted (st : ReaderState) (fuel n : Nat) (cs : List Char) (parts : List Part)
    (rest : List Char) (line : Nat) :
    let text := singleQuotedFrom (n + 1) cs
    readsFrom st (fuel + text.length) .plain parts false (text ++ rest) line =
      readsFrom st (fuel + text.length) .plain parts true (text ++ rest) line := by
  obtain ⟨front, marks, after, rfl, hfront, -, hquoted⟩ := exists_pieces cs
  intro text
  obtain ⟨more, hmore⟩ : ∃ more, text = '\'' :: (front ++ '\'' :: more) := by
    have htext := hquoted n
    simp only [List.append_assoc, List.cons_append, List.nil_append] at htext
    exact ⟨_, htext⟩
  have hlength : fuel + text.length = fuel + more.length + (front.length + 2) := by
    rw [hmore]
    simp only [List.length_cons, List.length_append]
    omega
  have htext : text ++ rest = '\'' :: (front ++ '\'' :: (more ++ rest)) := by simp [hmore]
  rw [hlength, htext, readsFrom_piece st _ _ _ _ _ hfront, readsFrom_piece st _ _ _ _ _ hfront]

/-! ### The end of the word -/

theorem assemble_parts (parts : List Part) : ∀ fuel, parts.length < fuel →
    assemble fuel (parts.map Glyph.part) = (parts, []) := by
  induction parts with
  | nil =>
    intro fuel hfuel
    obtain ⟨fuel, rfl⟩ := Nat.exists_eq_succ_of_ne_zero (Nat.ne_of_gt hfuel)
    rfl
  | cons p parts ih =>
    intro fuel hfuel
    obtain ⟨fuel, rfl⟩ := Nat.exists_eq_succ_of_ne_zero (Nat.ne_of_gt (Nat.zero_lt_of_lt hfuel))
    simp only [List.map_cons, assemble, ih fuel (Nat.lt_of_succ_lt_succ hfuel)]

theorem word_scanAt (kind : Surroundings) (parts : List Part) (quoted : Bool) :
    (scanAt kind parts quoted).word = parts := by
  have hglyphs : (scanAt kind parts quoted).glyphs.reverse = parts.map Glyph.part := List.reverse_reverse _
  rw [Scan.word, hglyphs, assemble_parts]
  simp [scanAt]

/-- A word with quotes is no number of a descriptor. -/
theorem finishWord_quoted (parts : List Part) (c : Option Char) :
    finishWord (scanAt .plain parts true) c = (do
      giveBack c
      modify fun st => { st with word := parts }
      found .word) := by
  have hword := word_scanAt .plain parts true
  unfold finishWord
  simp only [hword]
  simp [scanAt, levelOf, Scan.inDocument]

/-- A word ends with the script, with the line and before what breaks words. -/
theorem readsFrom_end (st : ReaderState) (fuel : Nat) (parts : List Part) {tail : List Char} (line : Nat)
    (htail : ∀ c ∈ tail.head?, c = '\n' ∨ isBreaking c = true) :
    readsFrom st (fuel + 1) .plain parts true tail line =
      (.ok .word, { st with input := tail, line, word := parts, last := .word }) := by
  have hfinish : ∀ c ∈ tail.head?, scan (fuel + 1) (scanAt .plain parts true) false (some c) =
      finishWord (scanAt .plain parts true) (some c) := by
    intro c hc
    rw [scan]
    rcases htail c hc with rfl | hbreak
    · simp [scanAt, levelOf]
    · have hmem : c ∈ "<>();&| \t".toList := by simpa [isBreaking] using hbreak
      have hothers : ∀ c ∈ "<>();&| \t".toList, c ≠ '\n' ∧ c ≠ '\\' ∧ c ≠ '$' ∧ c.toNat ≠ 0x27 ∧ c.toNat ≠ 0x22 ∧
          c.toNat ≠ 0x60 ∧ c.toNat ≠ 0x7D := by
        simp
      simp [scanAt, levelOf, hothers c hmem, hbreak, get_bind]
  cases tail with
  | nil =>
    have hnone : scan (fuel + 1) (scanAt .plain parts true) false none =
        finishWord (scanAt .plain parts true) none := by
      rw [scan]
      rfl
    show ((scan (fuel + 1) (scanAt .plain parts true) false none).run.run { st with input := [], line }) = _
    rw [hnone, finishWord_quoted]
    rfl
  | cons c tail =>
    have hc : c ≠ '\\' := by
      rintro rfl
      have hend := htail _ rfl
      revert hend
      decide
    rw [readsFrom_joined st _ _ _ _ _ (by decide) hc, hfinish c rfl, finishWord_quoted]
    rfl

/-- A token that begins with a single quote is a word. -/
theorem rawToken_quote (fuel : Nat) {st : ReaderState} {rest : List Char} (hinput : st.input = '\'' :: rest)
    (hagain : st.again = false) :
    (rawToken (fuel + 1)).run.run st = readsFrom st fuel .plain [] false st.input st.line := by
  have hscan : ∀ c, scan fuel { level := { kind := .plain } } true c = scan fuel (scanAt .plain [] false) false c :=
    scan_lineStart fuel .plain [] false true
  have hstate : st = { st with input := '\'' :: rest, line := st.line } := by
    rw [← hinput]
  have hnext : nextJoined.run.run st = (.ok (some '\''), { st with input := rest, line := st.line }) :=
    (congrArg nextJoined.run.run hstate).trans (run_nextJoined st rest st.line (by decide))
  rw [hinput, readsFrom_joined st _ _ _ _ _ (by decide) (by decide), ← hscan]
  unfold rawToken
  rw [ExceptT.run_bind, StateT.run_bind]
  show (ExceptT.run (if st.again = true then _ else (nextJoined >>= _))).run st = _
  rw [if_neg (by simp [hagain]), ExceptT.run_bind, StateT.run_bind, hnext]
  rfl

end Reader

/-! ### What becomes of the word -/

/-- A character that means nothing in a pattern or at the front of a word unless it is guarded. -/
inductive Means : List Piece → List Char → Prop where
  | nil : Means [] []
  | quote {ps : List Piece} {cs : List Char} : Means ps cs → Means (.quote :: ps) cs
  | char {c : Char} {guarded : Bool} {ps : List Piece} {cs : List Char} :
      guarded = true ∨ Reader.isProtected .single c = false → Means ps cs → Means (.char c guarded :: ps) (c :: cs)

theorem Means.append {ps qs : List Piece} {cs ds : List Char} (h : Means ps cs) (h' : Means qs ds) :
    Means (ps ++ qs) (cs ++ ds) := by
  induction h with
  | nil => exact h'
  | quote _ ih => exact .quote ih
  | char hc _ ih => exact .char hc ih

theorem Means.pieceText {ps : List Piece} {cs : List Char} (h : Means ps cs) : pieceText ps = String.ofList cs := by
  induction h with
  | nil => rfl
  | quote _ ih => exact ih
  | @char c _ _ _ _ _ ih => exact congrArg (fun l => String.ofList (c :: l)) (String.ofList_injective ih)

/-- A text in quotes is no pattern. -/
theorem Means.isPattern {ps : List Piece} {cs : List Char} (h : Means ps cs) (fuel : Nat) :
    Shell.isPattern fuel (pattern ps) = false := by
  induction h generalizing fuel with
  | nil => cases fuel <;> rfl
  | quote _ ih => exact ih fuel
  | @char c guarded ps cs hc _ ih =>
    cases fuel with
    | zero => rfl
    | succ fuel =>
      cases guarded with
      | true =>
        have hpattern : pattern (.char c true :: ps) = '\\' :: c :: pattern ps := by
          simp [pattern, patternFrom]
        rw [hpattern]
        exact ih fuel
      | false =>
        have hplain : Reader.isProtected .single c = false := by simpa using hc
        have hothers : c ≠ '\\' ∧ c ≠ '*' ∧ c ≠ '?' ∧ c ≠ '[' := by
          refine ⟨?_, ?_, ?_, ?_⟩ <;> rintro rfl <;> revert hplain <;> decide
        have hbackslash : (c == '\\') = false := by simp [hothers]
        have hpattern : pattern (.char c false :: ps) = c :: pattern ps := by
          simp [pattern, patternFrom, hbackslash]
        rw [hpattern]
        unfold Shell.isPattern
        simp [hothers, ih fuel]

/-- Runs that nothing is cut from make one field. -/
theorem fields_nowhere {runs : List Run} (hruns : ∀ r ∈ runs, r.cutting = .nowhere)
    (hne : runs.flatMap Run.pieces ≠ []) (separators : List Char) :
    fields separators runs = [runs.flatMap Run.pieces] := by
  have hcut : ∀ (runs : List Run) (cut : Cut), (∀ r ∈ runs, r.cutting = .nowhere) →
      runs.foldl (Cut.run separators) cut =
        { cut with current := (runs.flatMap Run.pieces).reverse ++ cut.current } := by
    intro runs
    induction runs with
    | nil => exact fun cut _ => rfl
    | cons r rest ih =>
      intro cut hrest
      have hr : Cut.run separators cut r = { cut with current := r.pieces.reverse ++ cut.current } := by
        rw [Cut.run, hrest r List.mem_cons_self]
      rw [List.foldl_cons, hr, ih _ fun r hr => hrest r (List.mem_cons_of_mem _ hr)]
      simp [List.flatMap_cons, List.append_assoc]
  unfold fields
  rw [hcut runs {} hruns]
  simp [hne, Cut.close]

theorem withHomes_spells {w : Word} {cs : List Char} (h : Spells w cs) (home? : Octets → Option Octets)
    (colons front : Bool) : withHomes home? colons front w = w := by
  induction h generalizing front with
  | nil => rw [withHomes]
  | quote _ ih =>
    rw [withHomes, ih]
    exact fun c h => Part.noConfusion h
  | @char c w cs hc _ ih =>
    have htilde : c ≠ '~' := by
      rintro rfl
      revert hc
      decide
    rw [withHomes]
    simp [htilde, ih]
  | escaped _ ih =>
    rw [withHomes, ih]
    exact fun c h => Part.noConfusion h

/-- A word without parameters has all its parts placed. -/
theorem map_placed {w : Word} {cs : List Char} (h : Spells w cs) (quoted : Bool) :
    (placed quoted w).map Prod.fst = w := by
  induction h generalizing quoted with
  | nil => rfl
  | @quote w cs hw ih =>
    have hplaced : placed quoted (.quote :: w) = (.quote, quoted) :: placed (!quoted) w := by
      cases hw <;> cases quoted <;> rfl
    rw [hplaced, List.map_cons, ih]
  | @char c w cs _ _ ih =>
    have hplaced : placed quoted (.char c :: w) = (.char c, quoted) :: placed quoted w := by
      cases quoted <;> rfl
    rw [hplaced, List.map_cons, ih]
  | @escaped c w cs _ ih =>
    have hplaced : placed quoted (.escaped c :: w) = (.escaped c, quoted) :: placed quoted w := by
      cases quoted <;> rfl
    rw [hplaced, List.map_cons, ih]

/-- The characters at the front of some parts that are placed alike. -/
def frontChars (inside : Bool) (ps : List (Part × Bool)) : List Char :=
  (ps.takeWhile fun q => q.2 == inside).map Prod.fst |>.map (fun | .char c => some c | _ => none)
    |>.takeWhile Option.isSome |>.filterMap id

/-- What means a text has a front of it as its front characters. -/
theorem exists_frontChars {ps : List (Part × Bool)} {cs : List Char} (h : Spells (ps.map Prod.fst) cs)
    (inside : Bool) : ∃ rest, cs = frontChars inside ps ++ rest ∧
      (∀ c ∈ frontChars inside ps, Reader.isProtected .single c = false) ∧
      Spells ((ps.drop (frontChars inside ps).length).map Prod.fst) rest := by
  induction ps generalizing cs with
  | nil => exact ⟨cs, rfl, fun c hc => absurd hc List.not_mem_nil, h⟩
  | cons p ps ih =>
    obtain ⟨part, placed⟩ := p
    by_cases hplaced : placed = inside
    · subst hplaced
      cases h with
      | quote h => exact ⟨cs, by simp [frontChars], by simp [frontChars], by simpa [frontChars] using h.quote⟩
      | @escaped c _ cs h =>
        exact ⟨c :: cs, by simp [frontChars], by simp [frontChars], by simpa [frontChars] using h.escaped⟩
      | @char c _ cs hc h =>
        obtain ⟨rest, rfl, hplain, hrest⟩ := ih h
        have hfront : frontChars placed ((.char c, placed) :: ps) = c :: frontChars placed ps := by
          simp [frontChars]
        rw [hfront]
        exact ⟨rest, rfl, List.forall_mem_cons.2 ⟨hc, hplain⟩, hrest⟩
    · have hfront : frontChars inside ((part, placed) :: ps) = [] := by
        simp [frontChars, hplaced]
      rw [hfront]
      exact ⟨cs, rfl, fun c hc => absurd hc List.not_mem_nil, h⟩

theorem means_chars {cs : List Char} (h : ∀ c ∈ cs, Reader.isProtected .single c = false) :
    Means (cs.map fun c => .char c false) cs := by
  induction cs with
  | nil => exact .nil
  | cons c cs ih =>
    exact .char (.inr (h c List.mem_cons_self)) (ih fun d hd => h d (List.mem_cons_of_mem c hd))

/-- The runs of a word that means a text mean the text too, and nothing else happens. -/
theorem partRuns_spells (substitute : Command → Step Octets) {place : Place} (hplace : place.inner = false)
    {ps : List (Part × Bool)} {cs : List Char} (h : Spells (ps.map Prod.fst) cs) {fuel : Nat}
    (hfuel : ps.length < fuel) :
    ∃ runs, partRuns substitute fuel place ps = pure runs ∧ (∀ r ∈ runs, r.cutting = .nowhere) ∧
      Means (runs.flatMap Run.pieces) cs ∧ (ps ≠ [] → runs.flatMap Run.pieces ≠ []) := by
  induction fuel generalizing ps cs with
  | zero => omega
  | succ fuel ih =>
    cases ps with
    | nil =>
      cases h
      exact ⟨[], by rw [partRuns], fun r hr => absurd hr List.not_mem_nil, .nil, fun hne => absurd rfl hne⟩
    | cons p ps =>
      obtain ⟨part, inside⟩ := p
      rw [List.length_cons] at hfuel
      cases h with
      | quote h =>
        obtain ⟨runs, hruns, hcut, hmeans, -⟩ := ih h (by omega)
        refine ⟨{ pieces := [.quote] } :: runs, ?_, List.forall_mem_cons.2 ⟨rfl, hcut⟩, .quote hmeans,
          by simp⟩
        rw [partRuns]
        simp [hruns]
      | @escaped c _ cs h =>
        obtain ⟨runs, hruns, hcut, hmeans, -⟩ := ih h (by omega)
        refine ⟨{ pieces := [.char c true] } :: runs, ?_, List.forall_mem_cons.2 ⟨rfl, hcut⟩,
          .char (.inl rfl) hmeans, by simp⟩
        rw [partRuns]
        simp [hruns]
      | @char c _ cs hc h =>
        obtain ⟨rest, rfl, hplain, hrest⟩ := exists_frontChars h inside
        obtain ⟨runs, hruns, hcut, hmeans, -⟩ := ih hrest (by rw [List.length_drop]; omega)
        refine ⟨{ pieces := (c :: frontChars inside ps).map fun c => .char c false } :: runs, ?_,
          List.forall_mem_cons.2 ⟨rfl, hcut⟩, (means_chars (List.forall_mem_cons.2 ⟨hc, hplain⟩)).append hmeans,
          by simp⟩
        rw [partRuns]
        show (do
          let more ← partRuns substitute fuel place (ps.drop (frontChars inside ps).length)
          return { cutting := if place.inner then _ else .nowhere, pieces := _ } :: more : Step (List Run)) = _
        rw [hruns, hplace, pure_bind]
        rfl

/-- Nothing in the word is replaced. -/
theorem wordRuns_spells (substitute : Command → Step Octets) {w : Word} {cs : List Char} (h : Spells w cs)
    {fuel : Nat} (hfuel : w.length < fuel) {place : Place} (hplace : place.inner = false) :
    ∃ runs, wordRuns substitute (fuel + 1) place w = pure runs ∧ (∀ r ∈ runs, r.cutting = .nowhere) ∧
      Means (runs.flatMap Run.pieces) cs ∧ (w ≠ [] → runs.flatMap Run.pieces ≠ []) := by
  have hparts : ((placed false w).map Prod.fst) = w := map_placed h false
  have hlength : (placed false w).length < fuel := by
    rw [← List.length_map (f := Prod.fst), hparts]
    exact hfuel
  obtain ⟨runs, hruns, hcut, hmeans, hne⟩ := partRuns_spells substitute hplace (hparts.symm ▸ h) hlength
  refine ⟨runs, ?_, hcut, hmeans, fun hw => hne fun hnil => hw ?_⟩
  · have hhomes : ∀ s : Session, (if place.tilde then withHomes (homeOf? s) place.colons true w else w) = w := by
      intro s
      rw [withHomes_spells h, ite_self]
    rw [wordRuns]
    simp only [hhomes, hruns]
    rfl
  · rw [← hparts, hnil, List.map_nil]

/-- A word of quotes that means a text is one field, which is the text, and nothing else happens. -/
theorem wordFields_spells (substitute : Command → Step Octets) {w : Word} {cs : List Char} (h : Spells w cs)
    (hlength : w.length + 2 < wordDepth) (s : Session) :
    (wordFields substitute (.quote :: w)).run.run s = (.ok [String.ofList cs], s) := by
  have hshort : (Part.quote :: w).length < 99999 := Nat.lt_of_succ_lt_succ hlength
  obtain ⟨runs, hruns, hcut, hmeans, hne⟩ :=
    wordRuns_spells substitute h.quote hshort (rfl : ({ full := true } : Place).inner = false)
  have hwhole : paths s.world (runs.flatMap Run.pieces) = [String.ofList cs] := by
    unfold paths
    simp only [hmeans.isPattern, hmeans.pieceText]
    rfl
  have hdepth : wordRuns substitute wordDepth { full := true } (.quote :: w) = pure runs := hruns
  unfold wordFields
  rw [hdepth, pure_bind]
  show (Except.ok (if s.memory.has "noglob" then (fields s.memory.separators runs).map pieceText
    else (fields s.memory.separators runs).flatMap (paths s.world)), s) = _
  rw [fields_nowhere hcut (hne (List.cons_ne_nil _ _))]
  simp [hmeans.pieceText, hwhole]

/-! ### Quotes that are read back -/

/-- A shell reads a text that it has put in quotes as one word, which means the text, whatever is in it. The word
is one field, which is the text again. -/
theorem rawToken_singleQuoted (text : Octets) {st : ReaderState} {tail : List Char} {fuel : Nat}
    (hinput : st.input = (singleQuoted text).toList ++ tail) (hagain : st.again = false)
    (htail : ∀ c ∈ tail.head?, c = '\n' ∨ Reader.isBreaking c = true)
    (hfuel : (singleQuoted text).length + 1 < fuel) :
    ∃ w, (Reader.rawToken fuel).run.run st =
        (.ok .word, { st with input := tail, line := st.line + text.toList.count '\n', word := w, last := .word }) ∧
      Spells w text.toList ∧
      ((singleQuoted text).length + 1 < wordDepth →
        ∀ substitute s, (wordFields substitute w).run.run s = (.ok [text], s)) := by
  have hquoted : (singleQuoted text).toList = singleQuotedFrom (text.length + 1) text.toList := String.toList_ofList
  have hlength : text.toList.length < text.length + 1 := Nat.lt_succ_of_le (Nat.le_of_eq String.length_toList)
  obtain ⟨w, hw⟩ := Reader.exists_reads st hlength
  obtain ⟨extra, rfl⟩ : ∃ extra, fuel = extra + 1 + (singleQuoted text).length + 1 :=
    ⟨fuel - ((singleQuoted text).length + 2), by omega⟩
  obtain ⟨rest, hrest⟩ : ∃ rest, st.input = '\'' :: rest := by
    rw [hinput, hquoted, singleQuotedFrom]
    exact ⟨_, rfl⟩
  have hspells : Spells w text.toList := by
    cases hw.spells
    assumption
  refine ⟨.quote :: w, ?_, hw.spells, fun hdepth substitute s => ?_⟩
  · rw [Reader.rawToken_quote _ hrest hagain, hinput, ← String.length_toList, hquoted, Reader.readsFrom_unquoted,
      hw.reads, Reader.readsFrom_end st extra _ _ htail]
    rfl
  · have hshort : w.length + 2 < wordDepth := by
      have hword : w.length + 1 = (singleQuoted text).length := by
        rw [← String.length_toList, hquoted]
        exact hw.length
      omega
    rw [wordFields_spells substitute hspells hshort, String.ofList_toList]

end CommandPipeline.Platform.Shell
