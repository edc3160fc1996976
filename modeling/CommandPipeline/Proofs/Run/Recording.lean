import CommandPipeline.Proofs.Run.Accompanying

/-! The calls that are signaled in a run are the calls that the runner gets. A runner that writes down
each call which it answers goes through the same run, and has written down the signaled calls. -/
namespace CommandPipeline.Run

variable {σ : Type}

/-- A runner that keeps, beside its own state, the calls that it was given. -/
def recording (runner : Command.Runner σ) : Command.Runner (σ × List (Command.Mode × String)) where
  call mode command s :=
    let (answer, next) := runner.call mode command s.1
    (answer, next, s.2 ++ [(mode, command)])
  hear r s := (runner.hear r s.1, s.2)

theorem calls_callSignals (mode : Command.Mode) (command : String) (answer : Command.Answer) :
    calls (callSignals mode command answer) = [(mode, command)] := by
  rw [← calls_seen, seen_callSignals]
  rfl

/-- What is written down is what was signaled so far. -/
theorem accompanies_recording (runner : Command.Runner σ) (log : List (Command.Mode × String)) :
    Accompanies (recording runner) fun past s => s.2 = log ++ calls past where
  event := by
    intro past s e h
    rw [h, calls_append]
    simp [calls, Signal.call?]
  record := by
    intro past s r h
    rw [calls_append, ← List.append_assoc, ← h]
    simp [calls, Signal.call?, recording]
  call := by
    intro past s mode command h
    rw [calls_append, calls_callSignals, ← List.append_assoc, ← h]
    rfl

/-- Whether calls are written down cannot be told from the answers. -/
theorem matches_recording (runner : Command.Runner σ) :
    Matches runner (recording runner) fun s t => t.1 = s where
  answer := by rintro s t mode command rfl; rfl
  call := by rintro s t mode command rfl; rfl
  hear := by rintro s t r rfl; rfl

/-- Over a whole run the runner gets the calls that are signaled, in their order. -/
theorem run_recording (runner : Command.Runner σ) (occasion : Occasion) (d : Document)
    (args : Arguments) (s : σ) (log : List (Command.Mode × String)) :
    let o := run runner occasion d args s
    run (recording runner) occasion d args (s, log) =
      ⟨o.report, o.failure, o.signals, (o.state, log ++ calls o.signals)⟩ := by
  obtain ⟨last, last', hlast, report, failure, signals, hrun, hrecorded⟩ :=
    (matches_recording runner).run occasion d args (s := s) (t := (s, log)) rfl
  have hlog := (accompanies_recording runner log).run occasion d args (s := (s, log))
    (List.append_nil log).symm
  simp only [hrun, hrecorded] at hlog ⊢
  rw [← hlast, ← hlog]

end CommandPipeline.Run
