import CommandPipeline.Proofs.Language.Following
import Mathlib.Data.List.Basic

/-! The turns of the machine of the pipeline language. A turn uses up a line, or it enters the last section
with the line that ends the steps, which it keeps. There is no way back from the last section, so that only
one line is read again, and a run reads one line more than there are at most. -/
namespace CommandPipeline.Language

/-! ### One line -/

/-- A section that accepts a line lets the machine go on to the next line, and into the last section only
from there, or it has the last section read a closing line again. -/
theorem accept_cases {tokens : TokenSource} {place : Section} {line : Line} {d : Draft} {a : Accepted}
    (h : accept tokens place line d = .ok a) :
    (∃ next, a.move = .advance next ∧ place.rank ≤ next.rank ∧ (next = .ending ↔ place = .ending)) ∨
      ∃ output, ending? line.text = some output ∧ place = .pipeline ∧ a.move = .reconsume .ending ∧
        a.draft = d := by
  cases place with
  | definition =>
    simp only [accept, acceptDefinition] at h
    split at h
    · contradiction
    · cases h
      exact .inl ⟨.declaration, rfl, by decide, by decide⟩
  | declaration =>
    simp only [accept, acceptDeclaration] at h
    split at h
    · contradiction
    · cases h
      exact .inl ⟨.pipeline, rfl, by decide, by decide⟩
    · cases h
      exact .inl ⟨.declaration, rfl, by decide, by decide⟩
  | pipeline =>
    simp only [accept, acceptStep] at h
    split at h
    · rename_i output ho
      cases h
      exact .inr ⟨output, ho, rfl, rfl, rfl⟩
    · split at h
      · contradiction
      · cases h
        exact .inl ⟨.pipeline, rfl, by decide, by decide⟩
  | ending =>
    simp only [accept, acceptEnding] at h
    split at h
    · contradiction
    · cases h
      exact .inl ⟨.ending, rfl, by decide, by decide⟩

/-- The last section goes on to the next line behind a closing line. -/
theorem accept_ending {tokens : TokenSource} {line : Line} {d : Draft} {output : Option String}
    (h : ending? line.text = some output) :
    accept tokens .ending line d = .ok ⟨.advance .ending, d.close output, []⟩ := by
  simp only [accept, acceptEnding, h]
  rfl

namespace Machine

/-- Whether a line is left for the next turn to read. -/
def reads (m : Machine) : Bool := !m.rest.isEmpty

/-- Where the next turn goes, unless its line is rejected. -/
def move? (tokens : TokenSource) (m : Machine) : Option Move :=
  match m.rest with
  | [] => none
  | line :: _ => (accept tokens m.place line m.draft).toOption.map Accepted.move

/-- Whether the next turn keeps its line, to have it read again. -/
def keeps (tokens : TokenSource) (m : Machine) : Bool :=
  match m.move? tokens with
  | some (.reconsume _) => true
  | _ => false

/-- How many turns can keep their line from here on. -/
def keepable (m : Machine) : Nat := if m.place = .ending then 0 else 1

/-- How many turns can read a line from here on. -/
def readable (m : Machine) : Nat := m.rest.length + m.keepable

/-! ### One turn -/

section Turn

variable {tokens : TokenSource} {m next : Machine} {records : List Log.Record}

/-- What a turn does that does not halt the machine. -/
inductive Moves (tokens : TokenSource) (m next : Machine) : Prop where
  /-- It uses up its line. -/
  | on {line : Line} : m.rest = line :: next.rest → m.keeps tokens = false →
      m.place.rank ≤ next.place.rank → (next.place = .ending ↔ m.place = .ending) → Moves tokens m next
  /-- It enters the last section with a closing line. -/
  | again {line : Line} {rest : List Line} {output : Option String} : m.rest = line :: rest →
      ending? line.text = some output → m.keeps tokens = true → m.place = .pipeline →
      next = { m with place := .ending } → Moves tokens m next

theorem moves_of_turn (h : m.turn tokens = .moved next records) : Moves tokens m next := by
  obtain ⟨place, d, lines⟩ := m
  cases lines with
  | nil => contradiction
  | cons line rest =>
    cases ha : accept tokens place line d with
    | error e => simp [turn, ha] at h
    | ok a =>
      rcases accept_cases ha with ⟨place', hmove, hrank, hending⟩ | ⟨output, ho, hplace, hmove, hdraft⟩
      · simp only [turn, ha, hmove, Turn.moved.injEq] at h
        obtain ⟨rfl, -⟩ := h
        exact .on rfl (by simp [keeps, move?, ha, hmove, Except.toOption]) hrank hending
      · simp only [turn, ha, hmove, Turn.moved.injEq] at h
        obtain ⟨rfl, -⟩ := h
        exact .again rfl ho (by simp [keeps, move?, ha, hmove, Except.toOption]) hplace (by rw [hdraft])

namespace Moves

theorem reads (h : Moves tokens m next) : m.reads = true := by
  cases h with
  | on hrest => simp [Machine.reads, hrest]
  | again hrest => simp [Machine.reads, hrest]

theorem rank_le (h : Moves tokens m next) : m.place.rank ≤ next.place.rank := by
  cases h with
  | on _ _ hrank => exact hrank
  | again _ _ _ hplace hnext =>
    subst hnext
    rw [hplace]
    exact (by decide : Section.pipeline.rank ≤ Section.ending.rank)

/-- A turn that keeps its line is the last that can. -/
theorem keepable (h : Moves tokens m next) :
    next.keepable + (if m.keeps tokens then 1 else 0) = m.keepable := by
  cases h with
  | on _ hkeeps _ hending => simp [Machine.keepable, hkeeps, hending]
  | again _ _ hkeeps hplace hnext => simp [Machine.keepable, hkeeps, hplace, hnext]

/-- With each turn there is one less that can read a line. -/
theorem readable (h : Moves tokens m next) : next.readable + 1 = m.readable := by
  have hkeepable := h.keepable
  cases h with
  | on hrest hkeeps =>
    simp only [hkeeps, Bool.false_eq_true, if_false] at hkeepable
    simp only [Machine.readable, hrest, List.length_cons]
    omega
  | again _ _ hkeeps _ hnext =>
    simp only [hkeeps, if_true] at hkeepable
    have hrest : next.rest = m.rest := by rw [hnext]
    simp only [Machine.readable, hrest]
    omega

/-- The line that a turn keeps is read in the last section, which accepts it. -/
theorem accepts (h : Moves tokens m next) (hkeeps : m.keeps tokens = true) :
    m.place = .pipeline ∧ next.place = .ending ∧ next.rest = m.rest ∧
      next.move? tokens = some (.advance .ending) := by
  cases h with
  | on _ hnot =>
    rw [hnot] at hkeeps
    contradiction
  | again hrest ho _ hplace hnext =>
    subst hnext
    refine ⟨hplace, rfl, rfl, ?_⟩
    simp only [move?, hrest, accept_ending ho]
    rfl

end Moves

/-- A turn that halts the machine has no line, or rejects its line. -/
theorem move?_of_halted {outcome : Except ParseError Document} (h : m.turn tokens = .halted outcome) :
    m.move? tokens = none := by
  obtain ⟨place, d, lines⟩ := m
  cases lines with
  | nil => rfl
  | cons line rest =>
    simp only [turn] at h
    split at h
    · rename_i ha
      simp [move?, ha, Except.toOption]
    · split at h <;> contradiction

/-- A machine that halts with a document has used up all lines and is in the last section. -/
theorem readable_of_halted {document : Document} (h : m.turn tokens = .halted (.ok document)) :
    m.readable = 0 := by
  obtain ⟨place, d, lines⟩ := m
  cases lines with
  | nil =>
    cases place <;> simp [turn, finish, Machine.readable, Machine.keepable] at h ⊢
  | cons line rest =>
    simp only [turn] at h
    split at h
    · cases h
    · split at h <;> contradiction

end Turn

/-! ### All turns -/

/-- `Turns tokens m ms outcome`: from `m` on, the machine takes a turn at each of `ms`, and the last one halts
it with the outcome. -/
inductive Turns (tokens : TokenSource) : Machine → List Machine → Except ParseError Document → Prop where
  | halted {m : Machine} {outcome : Except ParseError Document} :
      m.turn tokens = .halted outcome → Turns tokens m [m] outcome
  | moved {m next : Machine} {records : List Log.Record} {ms : List Machine}
      {outcome : Except ParseError Document} :
      m.turn tokens = .moved next records → Turns tokens next ms outcome → Turns tokens m (m :: ms) outcome

namespace Turns

variable {tokens : TokenSource} {m : Machine} {ms ns : List Machine}
  {outcome other : Except ParseError Document}

theorem unique (h : Turns tokens m ms outcome) (h' : Turns tokens m ns other) :
    ms = ns ∧ outcome = other := by
  induction h generalizing ns with
  | halted hturn =>
    cases h' with
    | halted hturn' => exact ⟨rfl, Turn.halted.inj (hturn.symm.trans hturn')⟩
    | moved hturn' => rw [hturn] at hturn'; contradiction
  | moved hturn _ ih =>
    cases h' with
    | halted hturn' => rw [hturn] at hturn'; contradiction
    | moved hturn' hnext =>
      obtain ⟨rfl, -⟩ := Turn.moved.inj (hturn.symm.trans hturn')
      obtain ⟨rfl, rfl⟩ := ih hnext
      exact ⟨rfl, rfl⟩

theorem exists_cons (h : Turns tokens m ms outcome) : ∃ behind, ms = m :: behind := by
  cases h with
  | halted => exact ⟨[], rfl⟩
  | moved => exact ⟨_, rfl⟩

/-- The turns end, and the run has their outcome. -/
theorem exists_turns (tokens : TokenSource) (m : Machine) :
    ∃ ms, Turns tokens m ms (m.run tokens).value := by
  induction m using Machine.run.induct tokens with
  | case1 m outcome hturn =>
    rw [run_halted hturn]
    exact ⟨[m], .halted hturn⟩
  | case2 m next records hturn _ ih =>
    obtain ⟨ms, hms⟩ := ih
    rw [run_moved hturn]
    exact ⟨m :: ms, .moved hturn hms⟩

theorem countP_reads_le (h : Turns tokens m ms outcome) : ms.countP Machine.reads ≤ m.readable := by
  induction h with
  | @halted m outcome hturn =>
    rw [List.countP_singleton]
    cases hrest : m.rest with
    | nil => simp [Machine.reads, hrest]
    | cons line rest =>
      simp only [Machine.reads, Machine.readable, hrest, List.isEmpty_cons, Bool.not_false, if_true,
        List.length_cons]
      omega
  | moved hturn _ ih =>
    have hless := (moves_of_turn hturn).readable
    rw [List.countP_cons_of_pos (moves_of_turn hturn).reads]
    omega

theorem countP_keeps_le (h : Turns tokens m ms outcome) :
    ms.countP (Machine.keeps tokens) ≤ m.keepable := by
  induction h with
  | @halted m outcome hturn => simp [Machine.keeps, move?_of_halted hturn]
  | moved hturn _ ih =>
    have hless := (moves_of_turn hturn).keepable
    rw [List.countP_cons]
    omega

/-- A run that reads a document makes use of all the turns that it can take. -/
theorem countP_of_ok (h : Turns tokens m ms outcome) {document : Document} (hok : outcome = .ok document) :
    ms.countP Machine.reads = m.readable ∧ ms.countP (Machine.keeps tokens) = m.keepable := by
  induction h with
  | @halted m outcome hturn =>
    subst hok
    have hreads := (Turns.halted hturn).countP_reads_le
    have hkeeps := (Turns.halted hturn).countP_keeps_le
    have hnone := readable_of_halted hturn
    have hsum : m.readable = m.rest.length + m.keepable := rfl
    omega
  | moved hturn _ ih =>
    obtain ⟨hreads, hkeeps⟩ := ih hok
    have hreadable := (moves_of_turn hturn).readable
    have hkeepable := (moves_of_turn hturn).keepable
    rw [List.countP_cons_of_pos (moves_of_turn hturn).reads, List.countP_cons]
    omega

theorem rank_le (h : Turns tokens m ms outcome) : ∀ n ∈ ms, m.place.rank ≤ n.place.rank := by
  induction h with
  | halted => simp
  | moved hturn _ ih =>
    have hrank := (moves_of_turn hturn).rank_le
    exact List.forall_mem_cons.2 ⟨Nat.le_refl _, fun n hn => Nat.le_trans hrank (ih n hn)⟩

theorem pairwise_rank (h : Turns tokens m ms outcome) :
    ms.Pairwise fun n n' => n.place.rank ≤ n'.place.rank := by
  induction h with
  | halted => exact List.pairwise_singleton _ _
  | moved hturn hrest ih =>
    have hrank := (moves_of_turn hturn).rank_le
    exact List.pairwise_cons.2 ⟨fun n hn => Nat.le_trans hrank (hrest.rank_le n hn), ih⟩

/-- Behind a turn that keeps its line, the last section accepts the line. -/
theorem accepts_kept (h : Turns tokens m ms outcome) {before after : List Machine} {n : Machine}
    (hms : ms = before ++ n :: after) (hkeeps : n.keeps tokens = true) :
    ∃ next behind, after = next :: behind ∧ n.place = .pipeline ∧ next.place = .ending ∧
      next.rest = n.rest ∧ next.move? tokens = some (.advance .ending) := by
  induction h generalizing before with
  | @halted m outcome hturn =>
    have hnone := move?_of_halted hturn
    cases before with
    | nil =>
      obtain ⟨rfl, -⟩ := List.cons.inj hms
      simp [Machine.keeps, hnone] at hkeeps
    | cons first before => simp at hms
  | @moved m next records ms outcome hturn hrest ih =>
    cases before with
    | nil =>
      obtain ⟨rfl, rfl⟩ := List.cons.inj hms
      obtain ⟨behind, rfl⟩ := hrest.exists_cons
      exact ⟨next, behind, rfl, (moves_of_turn hturn).accepts hkeeps⟩
    | cons first before => exact ih (List.cons.inj hms).2

end Turns

/-- A run of the machine takes its turns in one way, and they end. It reads one line more than there are at
most, and exactly so many if it reads a document, because one turn at most keeps its line. It never goes back
to an earlier section, and the last section accepts the line that was kept. -/
theorem run_takes_turns (tokens : TokenSource) (lines : List Line) :
    let start : Machine := { rest := lines }
    ∃ ms, (∀ ns outcome, Turns tokens start ns outcome ↔ ns = ms ∧ outcome = (start.run tokens).value) ∧
      ms.countP Machine.reads ≤ lines.length + 1 ∧ ms.countP (Machine.keeps tokens) ≤ 1 ∧
      (∀ document, (start.run tokens).value = .ok document →
        ms.countP Machine.reads = lines.length + 1 ∧ ms.countP (Machine.keeps tokens) = 1) ∧
      ms.Pairwise (fun m next => m.place.rank ≤ next.place.rank) ∧
      ∀ before m after, ms = before ++ m :: after → m.keeps tokens = true →
        ∃ next behind, after = next :: behind ∧ m.place = .pipeline ∧ next.place = .ending ∧
          next.rest = m.rest ∧ next.move? tokens = some (.advance .ending) := by
  intro start
  obtain ⟨ms, hms⟩ := Turns.exists_turns tokens start
  refine ⟨ms, fun ns outcome => ⟨fun h => h.unique hms, ?_⟩, hms.countP_reads_le, hms.countP_keeps_le,
    fun _ hok => hms.countP_of_ok hok, hms.pairwise_rank, fun _ _ _ => hms.accepts_kept⟩
  rintro ⟨rfl, rfl⟩
  exact hms

end Machine

end CommandPipeline.Language
