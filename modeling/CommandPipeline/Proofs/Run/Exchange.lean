import CommandPipeline.Proofs.Run.Scope
import CommandPipeline.Proofs.Run.Unread

/-! Neighbouring steps in either order. An assignment makes no calls, so that a step behind it which neither
reads nor stores what it stores, and does not store what it reads, finds the runner and the variables that
matter to it as it would in front of it. -/
namespace CommandPipeline.Run

variable {σ : Type}

/-! ### Two choices of variables -/

/-- The variables with the names in `K`, and the same ones with a value stored under `t`. -/
def Stored (K : Set (List Char)) (t value : String) (a b : Bindings) : Prop :=
  DifferAt K t a b ∧ b = a.insert t value

theorem stored_insert {vars : Bindings} {t : String} (h : vars.contains t = true) (value : String) :
    Stored vars.nameTexts t value vars (vars.insert t value) :=
  ⟨⟨rfl, Bindings.nameTexts_insert h value, fun _ hv => (vars.get?_insert_of_ne value hv).symm⟩, rfl⟩

theorem blind_stored {K : Set (List Char)} {t value : String} {y : Step} (hreads : ¬ y.Reads K t)
    (htarget : y.target? ≠ some t) : Blind (Stored K t value) y where
  source hab name hname := (blind_differAt hreads).source hab.1 name hname
  command hab command hcommand := (blind_differAt hreads).command hab.1 command hcommand
  target := by
    rintro a _ ⟨hab, rfl⟩ name text hname
    have hne : name ≠ t := fun he => htarget (he ▸ hname)
    obtain ⟨hresult, hvars⟩ := hab.keep name text
    exact ⟨hresult, hvars, (keep_insert hne text).2⟩

/-! ### Assignments -/

section Assign

variable (runner : Command.Runner σ) {t source value : String} {vars : Bindings} (s : σ)

theorem perform_assign (hsource : vars.get? source = some value) (ht : vars.contains t = true) :
    perform runner (.assign t source) vars s =
      { command := value, vars := vars.insert t value, result := .ok (), state := s } := by
  simp only [perform, performAssign, Bindings.read, hsource, keep_of_contains ht]

theorem perform_assign_error (h : ¬ (∃ value, vars.get? source = some value ∧ vars.contains t = true)) :
    ∃ cause, (perform runner (.assign t source) vars s).outcome = .error cause := by
  cases hp : (perform runner (.assign t source) vars s).outcome with
  | error cause => exact ⟨cause, rfl⟩
  | ok next =>
    obtain ⟨target, value, htarget, hvalue, hcontains, -⟩ | ⟨htarget, -⟩ := stores_of_perform hp
    · obtain rfl : t = target := Option.some.inj htarget
      exact absurd ⟨value, hvalue, hcontains⟩ h
    · contradiction

end Assign

/-! ### Two steps -/

/-- The lists are one but for the items at the positions `n` and `n + 1`, which change places. -/
def Transposed {α : Type} (n : Nat) (l l' : List α) : Prop :=
  ∃ before a b behind, before.length = n ∧ l = before ++ a :: b :: behind ∧ l' = before ++ b :: a :: behind

/-- `p.Exchanged n p'`: both runs of steps fail, or both complete and differ in their times and in the order
of the entries `n` and `n + 1`. -/
inductive Progress.Exchanged (n : Nat) (p p' : Progress σ) : Prop where
  | failed : p.failure ≠ none → p'.failure ≠ none → Exchanged n p p'
  | completed : p.failure = none → p'.failure = none → p.vars = p'.vars →
      calls p.signals = calls p'.signals → p.state = p'.state →
      Transposed n (p.entries.map Entry.untimed) (p'.entries.map Entry.untimed) → Exchanged n p p'

section Steps

variable {call : Command.Mode → String → σ → Command.Answer × σ} {elapsed elapsed' : Nat → Duration}
  {i : Nat} {step : Step} {rest : List Step} {vars next : Bindings} {s : σ}

theorem failure_runSteps_cons_of_error {cause : RunError}
    (h : (perform (answering call) step vars s).outcome = .error cause) :
    (runSteps (answering call) elapsed i (step :: rest) vars s).failure ≠ none := by
  simp [runSteps, told_answering, Performed.outcome_eq_error_iff.1 h]

/-- The run of one step that completes. -/
def Progress.ofStep (elapsed : Nat → Duration) (i : Nat) (step : Step) (p : Performed σ) (next : Bindings) :
    Progress σ :=
  let entry : Entry := { command := p.command, elapsed := elapsed i }
  ⟨next, [entry], none, beforeStep i step ++ p.signals ++ afterSuccess i entry, p.state⟩

theorem runSteps_cons_of_ok (h : (perform (answering call) step vars s).outcome = .ok next) :
    let p := perform (answering call) step vars s
    runSteps (answering call) elapsed i (step :: rest) vars s =
      (Progress.ofStep elapsed i step p next).andThen
        (runSteps (answering call) elapsed (i + 1) rest next p.state) := by
  obtain ⟨hresult, rfl⟩ := Performed.outcome_eq_ok_iff.1 h
  simp only [runSteps, told_answering, hresult]
  rfl

theorem calls_ofStep (p : Performed σ) :
    calls (Progress.ofStep elapsed i step p next).signals = calls p.signals := by
  have hbefore : calls (beforeStep i step) = [] := rfl
  have hafter : ∀ entry, calls (afterSuccess i entry) = [] := fun _ => rfl
  simp [Progress.ofStep, calls_append, hbefore, hafter]

/-- Two steps that complete in either order, with the same steps behind them. -/
theorem exchanged_andThen {x x' y y' q q' : Progress σ} (hq : Alike 0 q q')
    (hcalls : calls x.signals ++ calls y.signals = calls y'.signals ++ calls x'.signals)
    (hentries : ∃ e f, x.entries.map Entry.untimed = [e] ∧ y.entries.map Entry.untimed = [f] ∧
      x'.entries.map Entry.untimed = [e] ∧ y'.entries.map Entry.untimed = [f]) :
    (x.andThen (y.andThen q)).Exchanged 0 (y'.andThen (x'.andThen q')) := by
  have hfailure : q.failure = q'.failure := by simpa using hq.failure
  cases hf : q'.failure with
  | some f =>
    rw [hf] at hfailure
    exact .failed (by simp [Progress.andThen, hfailure]) (by simp [Progress.andThen, hf])
  | none =>
    rw [hf] at hfailure
    obtain ⟨e, f, hx, hy, hx', hy'⟩ := hentries
    refine .completed hfailure hf hq.vars ?_ hq.state ?_
    · simp only [Progress.andThen, calls_append, ← List.append_assoc, hcalls, hq.calls]
    · refine ⟨[], e, f, q'.entries.map Entry.untimed, rfl, ?_, ?_⟩
      · simp only [Progress.andThen, List.map_append, hx, hy, hq.entries]
        rfl
      · simp only [Progress.andThen, List.map_append, hx', hy']
        rfl

/-- An assignment changes places with a step that does not interfere with it. -/
theorem exchanged_runSteps {t source : String} {y : Step} (hreads : ¬ y.Reads vars.nameTexts t)
    (ht : y.target? ≠ some t) (hsource : y.target? ≠ some source) :
    (runSteps (answering call) elapsed i (.assign t source :: y :: rest) vars s).Exchanged 0
      (runSteps (answering call) elapsed' i (y :: .assign t source :: rest) vars s) := by
  by_cases hx : ∃ value, vars.get? source = some value ∧ vars.contains t = true
  · obtain ⟨value, hvalue, hcontains⟩ := hx
    have hfirst := perform_assign (answering call) s hvalue hcontains
    obtain ⟨hcommand, ⟨-, hvars⟩, hresult, hsignals, hstate⟩ :=
      agree_perform (answering call) (blind_stored hreads ht) (stored_insert hcontains value) s
    rw [runSteps_cons_of_ok (congrArg Performed.outcome hfirst), hfirst]
    cases hy : (perform (answering call) y vars s).outcome with
    | error cause =>
      have hy' : (perform (answering call) y (vars.insert t value) s).outcome = .error cause :=
        Performed.outcome_eq_error_iff.2 (hresult ▸ Performed.outcome_eq_error_iff.1 hy)
      exact .failed (failure_runSteps_cons_of_error hy') (failure_runSteps_cons_of_error hy)
    | ok next =>
      obtain ⟨hok, hnext⟩ := Performed.outcome_eq_ok_iff.1 hy
      have hy' : (perform (answering call) y (vars.insert t value) s).outcome =
          .ok (next.insert t value) :=
        Performed.outcome_eq_ok_iff.2 ⟨hresult ▸ hok, hnext ▸ hvars⟩
      have hvalue' : next.get? source = some value := by
        rw [get?_of_perform hy, if_neg hsource, hvalue]
      have hcontains' : next.contains t = true := (contains_of_perform hy t).trans hcontains
      have hlast := perform_assign (answering call) (perform (answering call) y vars s).state hvalue'
        hcontains'
      rw [runSteps_cons_of_ok hy', runSteps_cons_of_ok hy,
        runSteps_cons_of_ok (congrArg Performed.outcome hlast), hlast, ← hstate]
      refine exchanged_andThen (alike_runSteps call _ _ (i + 1 + 1) 0 rest _ _) ?_ ?_
      · simp only [calls_ofStep, hsignals]
        simp [calls]
      · exact ⟨_, _, rfl, rfl, rfl, by rw [← hcommand]; rfl⟩
  · obtain ⟨cause, hfirst⟩ := perform_assign_error (answering call) s hx
    refine .failed (failure_runSteps_cons_of_error hfirst) ?_
    cases hy : (perform (answering call) y vars s).outcome with
    | error cause' => exact failure_runSteps_cons_of_error hy
    | ok next =>
      have hx' : ¬ ∃ value, next.get? source = some value ∧ next.contains t = true := by
        rw [get?_of_perform hy, if_neg hsource, contains_of_perform hy]
        exact hx
      obtain ⟨cause', hlast⟩ :=
        perform_assign_error (answering call) (perform (answering call) y vars s).state hx'
      rw [runSteps_cons_of_ok hy]
      exact failure_runSteps_cons_of_error hlast

end Steps

/-! ### All steps -/

theorem Transposed.append_left {α : Type} {n : Nat} {l l' : List α} (h : Transposed n l l') (k : List α) :
    Transposed (k.length + n) (k ++ l) (k ++ l') := by
  obtain ⟨before, a, b, behind, rfl, rfl, rfl⟩ := h
  exact ⟨k ++ before, a, b, behind, by simp, by simp, by simp⟩

/-- Steps in front of the two make no difference. -/
theorem Progress.Exchanged.behind {n : Nat} {p p' q q' : Progress σ} (hp : Alike 0 p p')
    (h : q.Exchanged n q') : (p.andThen q).Exchanged (p.entries.length + n) (p'.andThen q') := by
  cases h with
  | failed hq hq' => exact .failed hq hq'
  | completed hq hq' hvars hcalls hstate hentries =>
    refine .completed hq hq' hvars ?_ hstate ?_
    · simp only [Progress.andThen, calls_append, hp.calls, hcalls]
    · have h := hentries.append_left (p.entries.map Entry.untimed)
      rw [List.length_map] at h
      simp only [Progress.andThen, List.map_append, ← hp.entries]
      exact h

/-- Running steps brings no name into being. -/
theorem nameTexts_runSteps (runner : Command.Runner σ) (elapsed : Nat → Duration) (steps : List Step)
    (vars : Bindings) (s : σ) : (runSteps runner elapsed 0 steps vars s).vars.nameTexts = vars.nameTexts := by
  obtain ⟨last, hlast, hvars, -⟩ := exists_end runner elapsed 0 steps vars s [] rfl
  ext n
  rw [Bindings.mem_nameTexts_iff, Bindings.mem_nameTexts_iff, hvars, contains_of_reaches hlast]

section Whole

variable {t source : String} {y : Step}

theorem exchanged_append (call : Command.Mode → String → σ → Command.Answer × σ)
    (elapsed elapsed' : Nat → Duration) (before behind : List Step) (vars : Bindings) (s : σ)
    (hreads : ¬ y.Reads vars.nameTexts t) (ht : y.target? ≠ some t) (hsource : y.target? ≠ some source) :
    (runSteps (answering call) elapsed 0 (before ++ [.assign t source, y] ++ behind) vars s).Exchanged
      before.length
      (runSteps (answering call) elapsed' 0 (before ++ [y, .assign t source] ++ behind) vars s) := by
  have hp : Alike 0 (runSteps (answering call) elapsed 0 before vars s)
      (runSteps (answering call) elapsed' 0 before vars s) :=
    alike_runSteps call elapsed elapsed' 0 0 before vars s
  have hnames := nameTexts_runSteps (answering call) elapsed before vars s
  have hlength : (runSteps (answering call) elapsed 0 before vars s).entries.length = before.length :=
    length_entries_runSteps _ _ 0 before vars s
  rw [List.append_assoc, List.append_assoc,
    runSteps_append (answering call) elapsed 0 before ([.assign t source, y] ++ behind),
    runSteps_append (answering call) elapsed' 0 before ([y, .assign t source] ++ behind)]
  generalize runSteps (answering call) elapsed 0 before vars s = p at hp hnames hlength ⊢
  generalize runSteps (answering call) elapsed' 0 before vars s = p' at hp ⊢
  have hfailure : p.failure = p'.failure := by simpa using hp.failure
  cases hf : p'.failure with
  | some f =>
    rw [hf] at hfailure
    simp only [hfailure]
    exact .failed (by simp [Progress.stopped, hfailure]) (by simp [Progress.stopped, hf])
  | none =>
    rw [hf] at hfailure
    simp only [hfailure, ← hp.vars, ← hp.state, ← hlength]
    exact (exchanged_runSteps (hnames.symm ▸ hreads) ht hsource).behind hp

/-- Two runs that complete and differ in their times and in the order of the entries `n` and `n + 1`. -/
structure Outcome.Exchanged (n : Nat) (o o' : Outcome σ) : Prop where
  calls : calls o.signals = calls o'.signals
  state : o.state = o'.state
  vars : o.report.vars = o'.report.vars
  output : o.report.output = o'.report.output
  entries : Transposed n (o.report.entries.map Entry.untimed) (o'.report.entries.map Entry.untimed)

/-- A step reads no variable that it does not copy and that is nowhere the longest name behind a dollar
sign. -/
theorem not_reads {K : Set (List Char)} (hcopy : y.source? ≠ some t)
    (hcommand : ∀ command ∈ y.command?, ∀ behind, ('$' :: behind) <:+ command.toList →
      ¬ Longest K behind t.toList) : ¬ y.Reads K t := by
  rintro (hcopy' | ⟨command, hmem, ts, hscan, hvar⟩)
  · exact hcopy hcopy'
  · obtain ⟨behind, hbehind, hlongest⟩ := hscan.longest_of_var hvar
    exact hcommand command hmem behind hbehind hlongest

/-- An assignment `t = source` and a step behind it may change places if that step stores neither `t` nor
`source`, does not copy `t`, and has no dollar sign in its command at which `t` is the longest bound name. The
run succeeds in both orders or in none. If it does, only the order of the two entries tells them apart. -/
theorem run_exchange_steps (call : Command.Mode → String → σ → Command.Answer × σ)
    (occasion occasion' : Occasion) (d : Document) (before behind : List Step) (t source : String) (y : Step)
    (args : Arguments) (s : σ) (hcopy : y.source? ≠ some t) (ht : y.target? ≠ some t)
    (hsource : y.target? ≠ some source)
    (hcommand : ∀ command ∈ y.command?, ∀ behind, ('$' :: behind) <:+ command.toList →
      ¬ Longest d.nameTexts behind t.toList) :
    let o := run (answering call) occasion
      { d with steps := before ++ [.assign t source, y] ++ behind } args s
    let o' := run (answering call) occasion'
      { d with steps := before ++ [y, .assign t source] ++ behind } args s
    (o.failure = none ↔ o'.failure = none) ∧ (o.failure = none → o.Exchanged before.length o') := by
  intro o o'
  let d₁ : Document := { d with steps := before ++ [.assign t source, y] ++ behind }
  let d₂ : Document := { d with steps := before ++ [y, .assign t source] ++ behind }
  let p := runSteps (answering call) occasion.elapsed 0 d₁.steps (d.vars args) s
  let p' := runSteps (answering call) occasion'.elapsed 0 d₂.steps (d.vars args) s
  have h : o.Shows d₁ 0 p := shows_run (.refl p)
  have h' : o'.Shows d₂ 0 p' := shows_run (.refl p')
  have hexchanged : p.Exchanged before.length p' :=
    exchanged_append call occasion.elapsed occasion'.elapsed before behind (d.vars args) s
      ((d.nameTexts_vars args).symm ▸ not_reads hcopy hcommand) ht hsource
  cases hexchanged with
  | failed hp hp' =>
    obtain ⟨f, hf⟩ := Option.ne_none_iff_exists'.1 hp
    obtain ⟨f', hf'⟩ := Option.ne_none_iff_exists'.1 hp'
    simp [h.failure, h'.failure, conclude, hf, hf']
  | completed hp hp' hvars hcalls hstate hentries =>
    have hconclude : conclude d₁ p = conclude d₂ p' := by
      simp only [conclude, hp, hp', hvars, d₁, d₂]
    have hfailure : o.failure = o'.failure := by rw [h.failure, h'.failure, hconclude]
    refine ⟨by rw [hfailure], fun _ => ⟨?_, ?_, ?_, ?_, ?_⟩⟩
    · rw [h.calls, h'.calls, hcalls]
    · rw [h.state, h'.state, hstate]
    · rw [h.vars, h'.vars, hvars]
    · rw [h.output, h'.output, hconclude]
    · rw [h.entries, h'.entries]
      exact hentries

/-- The name that is stored begins a longer one, which the command has. -/
theorem run_exchange_steps_longer :
    let d : Document := {
      name := "p"
      inputs := [⟨"a", ""⟩, ⟨"ab", ""⟩, ⟨"c", ""⟩]
      output := some "c" }
    let occasion : Occasion := ⟨.zero, ⟨"1970-01-01T00:00:00Z", by decide⟩, fun _ => .zero, .zero⟩
    let y : Step := .capture "c" "echo $ab"
    let o := run (answering Command.scripted.call) occasion
      { d with steps := [.exec "true"] ++ [.assign "a" "ab", y] ++ [.exec "echo $a$c"] } ⟨["1", "2", "3"]⟩ []
    let o' := run (answering Command.scripted.call) occasion
      { d with steps := [.exec "true"] ++ [y, .assign "a" "ab"] ++ [.exec "echo $a$c"] } ⟨["1", "2", "3"]⟩ []
    y.source? ≠ some "a" ∧ y.target? ≠ some "a" ∧ y.target? ≠ some "ab" ∧
      (∀ command ∈ y.command?, ∀ behind, ('$' :: behind) <:+ command.toList →
        ¬ Longest d.nameTexts behind "a".toList) ∧
      o.failure = none ∧ o.Exchanged 1 o' := by
  intro d occasion y o o'
  have hbinds : "ab".toList ∈ d.nameTexts := .inl (by decide)
  have hcommand : ∀ command ∈ y.command?, ∀ behind, ('$' :: behind) <:+ command.toList →
      ¬ Longest d.nameTexts behind "a".toList := by
    intro command hmem behind hbehind hlongest
    obtain rfl : "echo $ab" = command := Option.some.inj hmem
    obtain rfl : behind = "ab".toList := by simpa [List.suffix_cons_iff] using hbehind
    exact absurd (hlongest.2 _ ⟨hbinds, by decide, List.prefix_rfl⟩) (by decide)
  have hfailure : o.failure = none := by rfl
  have h := run_exchange_steps Command.scripted.call occasion occasion d [.exec "true"]
    [.exec "echo $a$c"] "a" "ab" y ⟨["1", "2", "3"]⟩ [] (by decide) (by decide) (by decide) hcommand
  exact ⟨by decide, by decide, by decide, hcommand, hfailure, h.2 hfailure⟩

end Whole

end CommandPipeline.Run
