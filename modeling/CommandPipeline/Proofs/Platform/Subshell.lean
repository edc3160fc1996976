import CommandPipeline.Platform.Shell.Run
import CommandPipeline.Proofs.Platform.Starting

/-! What a shell keeps while it waits for a process of its own. The commands of a subshell may do anything: they
are run for a copy of the shell, of which only the files and what was written reach the shell again. A frame
relation says what stays, each step of the shell that waits is shown to stay in it, and steps in sequence do. -/
namespace CommandPipeline.Platform.Shell

open Text (Octets)

/-! ### What stays -/

/-- The shell is the same process, which remembers the same but for the line that it is at, the status of the
latest command substitution and the signals that have come. -/
structure Session.Keeps (s later : Session) : Prop where
  memory : later.memory = { s.memory with
    line := later.memory.line, substituted := later.memory.substituted, pending := later.memory.pending }
  process : World.SameProcess s.world later.world

namespace Session.Keeps

theorem refl (s : Session) : Keeps s s := ⟨rfl, .refl s.world⟩

theorem trans {s t u : Session} (h : Keeps s t) (h' : Keeps t u) : Keeps s u where
  memory := by
    rw [h'.memory, h.memory]
  process := h.process.trans h'.process

/-- Another world with the same process makes no difference to what the shell keeps. -/
theorem of_world {s : Session} {w : World} {output : Octets} {jobs : List Job} (h : World.SameProcess s.world w) :
    Keeps s { s with world := w, output, jobs } := ⟨rfl, h⟩

end Session.Keeps

/-- Steps after which the shell has kept what it had, whether they end well or not. -/
def Step.Keeps {α : Type} (x : Step α) : Prop := ∀ s : Session, s.Keeps (x.run.run s).2

namespace Step.Keeps

variable {α β : Type}

theorem pure (a : α) : Step.Keeps (Pure.pure a) := fun s => .refl s

theorem throw (e : Interrupt) : Step.Keeps (MonadExcept.throw e : Step α) := fun s => .refl s

theorem get : Step.Keeps (MonadState.get : Step Session) := fun s => .refl s

theorem bind {x : Step α} {f : α → Step β} (hx : Step.Keeps x) (hf : ∀ a, Step.Keeps (f a)) :
    Step.Keeps (x >>= f) := by
  intro s
  have hfirst := hx s
  rw [ExceptT.run_bind, StateT.run_bind]
  generalize x.run.run s = r at hfirst ⊢
  obtain ⟨result, later⟩ := r
  cases result with
  | ok a => exact hfirst.trans (hf a later)
  | error e => exact hfirst

theorem forM {xs : List α} {f : α → Step Unit} (hf : ∀ a ∈ xs, Step.Keeps (f a)) : Step.Keeps (xs.forM f) := by
  induction xs with
  | nil => exact pure ()
  | cons a rest ih =>
    exact bind (hf a List.mem_cons_self) fun _ => ih fun b hb => hf b (List.mem_cons_of_mem a hb)

theorem modify {f : Session → Session} (h : ∀ s : Session, s.Keeps (f s)) :
    Step.Keeps (MonadState.modifyGet fun s => ((), f s)) := h

end Step.Keeps

open Shell.Step (Keeps)

/-! ### Steps of a shell that waits -/

theorem keeps_freeNumber (fuel number : Nat) : Keeps (Step.freeNumber fuel number) := by
  induction fuel generalizing number with
  | zero => exact .pure number
  | succ fuel ih =>
    refine .bind .get fun s => ?_
    split
    · exact .pure number
    · split_ifs
      · exact .bind (.modify fun s => .of_world (.refl s.world)) fun _ => .pure number
      · exact ih (number + 1)

theorem keeps_jobNumber : Keeps Step.jobNumber := .bind .get fun _ => keeps_freeNumber _ 1

/-- The jobs that are run leave the shell as it was. -/
theorem keeps_runJobs (run : Evaluator) (fuel : Nat) (s : Session) : s.Keeps ((runJobs run fuel).run s).2 := by
  induction fuel generalizing s with
  | zero => exact .refl s
  | succ fuel ih =>
    unfold runJobs
    simp only [StateT.run_bind, StateT.run_get, pure_bind]
    split
    · exact .refl s
    · exact (Session.Keeps.of_world (.resume s.world _)).trans (ih _)

theorem keeps_catchUp (run : Evaluator) : Keeps (catchUp run) := fun s => keeps_runJobs run patience s

/-- What is run as a process of its own leaves the shell as it was. -/
theorem keeps_fork (run : Evaluator) (change : World → World) (steps : Step Unit) :
    Keeps (fork run change steps) := by
  unfold fork
  refine .bind (keeps_catchUp run) fun _ => .bind keeps_jobNumber fun _ s => ?_
  -- of the child, whatever it did, only the world comes back
  exact .of_world (.resume s.world _)

/-! ### Signals and endings -/

theorem keeps_receive (n : Nat) : Keeps (Step.receive n) := by
  unfold Step.receive
  refine .bind .get fun s => ?_
  dsimp only
  generalize (if (n == 9) = true then none else s.memory.traps.lookup n) = action?
  split
  · exact .pure ()
  · cases action? with
    | some action =>
      dsimp only
      split
      · exact fun s => ⟨rfl, .refl s.world⟩
      · exact .pure ()
    | none =>
      dsimp only
      split
      · exact .throw _
      · exact .pure ()

theorem keeps_receiveAll : Keeps Step.receiveAll := by
  unfold Step.receiveAll
  refine .bind (fun s => .refl s) fun w => .bind (fun s => ⟨rfl, ⟨rfl, rfl, rfl, rfl, rfl, rfl⟩⟩) fun _ => ?_
  exact .forM fun signal _ => keeps_receive signal.2

theorem sameProcess_write (w : World) (descriptor : Nat) (text : Octets) :
    World.SameProcess w (World.write descriptor text w).2 := by
  unfold World.write
  repeat' split
  all_goals exact ⟨rfl, rfl, rfl, rfl, rfl, rfl⟩

theorem keeps_sayError (text : Octets) : Keeps (Step.sayError text) := fun s =>
  .of_world (sameProcess_write s.world 2 text)

theorem keeps_noteEnding (e : Command.Ending) : Keeps (Step.noteEnding e) := by
  have hrest : Keeps (do
      Step.receive 17
      Step.receiveAll
      return statusOf e) :=
    .bind (keeps_receive 17) fun _ => .bind keeps_receiveAll fun _ => .pure _
  unfold Step.noteEnding
  dsimp only
  split
  · split
    · exact .bind (keeps_sayError _) fun _ => hrest
    · exact hrest
  · exact hrest

/-! ### Subshells and command substitutions -/

theorem keeps_apart (run : Evaluator) {st : Standing} (hst : st.final = false) (c : Command) :
    Keeps (apart run st c []) := by
  unfold apart
  refine .bind (.pure _) fun aims => .bind (fun s => .refl s) fun m => ?_
  rw [if_neg (by simp [hst])]
  exact .bind (keeps_fork run id _) fun ending => keeps_noteEnding ending

/-- The commands of a subshell may change what they like: the shell that waits for them keeps its variables,
functions, parameters, options and traps, its working directory and its descriptors. -/
theorem keeps_subshell (start : Start) (run : Evaluator) {st : Standing} (hst : st.final = false) (line : Nat)
    (c : Command) : Keeps (perform start run st (.subshell line c [])) :=
  .bind (fun s => ⟨rfl, .refl s.world⟩) fun _ => .bind (keeps_apart run hst c) fun _ => .pure _

/-- So may the commands whose output is put into a word. -/
theorem keeps_output (run : Evaluator) (c : Command) : Keeps (output run c) := by
  unfold output
  split
  · exact .pure ""
  · refine .bind (fun s => .of_world ⟨rfl, rfl, rfl, rfl, rfl, rfl⟩) fun pipe => ?_
    refine .bind (fun s => .of_world ⟨rfl, rfl, rfl, rfl, rfl, rfl⟩) fun stream => ?_
    refine .bind (keeps_fork run _ _) fun ending => ?_
    refine .bind (fun s => .of_world ⟨rfl, rfl, rfl, rfl, rfl, rfl⟩) fun text => ?_
    refine .bind (keeps_noteEnding ending) fun substituted => ?_
    exact .bind (fun s => ⟨rfl, .refl s.world⟩) fun _ => .pure text

end CommandPipeline.Platform.Shell
