import CommandPipeline.Proofs.Interpolation.Dependence
import CommandPipeline.Proofs.Run.Occasion
import CommandPipeline.Proofs.Run.Simulation

/-! Variables that a document does not read. What an argument gives to such a variable makes no difference
to a run, since the scan of a command takes the same variables whatever their values are. Neither does one
declaration more, as long as its name follows no dollar sign of a command. -/
namespace CommandPipeline

/-! ### Reading a variable -/

/-- The names of the variables that a run of the document has, as texts. -/
def Document.nameTexts (d : Document) : Set (List Char) := {n | d.Binds (String.ofList n)}

theorem Document.nameTexts_vars (d : Document) (args : Arguments) :
    (d.vars args).nameTexts = d.nameTexts := by
  ext n
  exact Bindings.mem_nameTexts_iff.trans (d.contains_vars args _)

/-- With the names in `K` bound, the step copies the variable or takes it into its command. -/
def Step.Reads (K : Set (List Char)) (x : String) (step : Step) : Prop :=
  step.source? = some x ∨
    ∃ command, step.command? = some command ∧ ∃ ts, Scan K command.toList ts ∧ .var x.toList ∈ ts

/-- A run of the document makes use of the value of the variable. -/
def Document.Reads (d : Document) (x : String) : Prop :=
  d.output = some x ∨ ∃ step ∈ d.steps, step.Reads d.nameTexts x

/-- Which variables a document reads can be computed from the variables of any run. -/
theorem Document.reads_iff (d : Document) (x : String) (args : Arguments) :
    d.Reads x ↔ d.output = some x ∨ ∃ step ∈ d.steps, step.source? = some x ∨
      ∃ command ∈ step.command?,
        .var x.toList ∈ tokens ((d.vars args).names.map String.toList) command.toList := by
  have hscan := fun cs => d.nameTexts_vars args ▸ (d.vars args).scan_tokens cs
  simp only [Document.Reads, Step.Reads, Option.mem_def]
  constructor
  · rintro (ho | ⟨step, hstep, hs | ⟨command, hc, ts, hts, hx⟩⟩)
    · exact .inl ho
    · exact .inr ⟨step, hstep, .inl hs⟩
    · exact .inr ⟨step, hstep, .inr ⟨command, hc, hts.unique (hscan _) ▸ hx⟩⟩
  · rintro (ho | ⟨step, hstep, hs | ⟨command, hc, hx⟩⟩)
    · exact .inl ho
    · exact .inr ⟨step, hstep, .inl hs⟩
    · exact .inr ⟨step, hstep, .inr ⟨command, hc, _, hscan _, hx⟩⟩

instance (d : Document) (x : String) : Decidable (d.Reads x) :=
  decidable_of_iff _ (d.reads_iff x d.defaultArguments).symm

namespace Run

variable {σ : Type}

theorem Outcome.Agree.sameBut {R : Bindings → Bindings → Prop} {o o₁ o' : Outcome σ}
    (h : o.Agree R o₁) (h' : o₁.SameBut o') : o.SameBut o' :=
  ⟨h.signals ▸ h'.seen, h.entries ▸ h'.entries, h.output.trans h'.output, h.failure.trans h'.failure,
    h.state.trans h'.state⟩

/-! ### The value of an unread variable -/

/-- Two choices of values for the names in `K` that differ for `x` at most. -/
structure DifferAt (K : Set (List Char)) (x : String) (a b : Bindings) : Prop where
  left : a.nameTexts = K
  right : b.nameTexts = K
  get? : ∀ v, v ≠ x → a.get? v = b.get? v

section Value

variable {K : Set (List Char)} {x : String} {a b : Bindings}

theorem DifferAt.keep (h : DifferAt K x a b) (name value : String) :
    (keep a name value).1 = (keep b name value).1 ∧
      DifferAt K x (keep a name value).2 (keep b name value).2 := by
  have hcontains := Bindings.contains_eq_of_nameTexts_eq (h.left.trans h.right.symm) name
  by_cases hname : b.contains name = true
  · rw [keep_of_contains (hcontains ▸ hname), keep_of_contains hname]
    refine ⟨rfl, ?_, ?_, ?_⟩
    · rw [Bindings.nameTexts_insert (hcontains ▸ hname), h.left]
    · rw [Bindings.nameTexts_insert hname, h.right]
    · intro v hv
      simp only [Bindings.get?_insert, h.get? v hv]
  · rw [keep_of_not_contains (hcontains ▸ hname), keep_of_not_contains hname]
    exact ⟨rfl, h⟩

theorem blind_differAt {step : Step} (h : ¬ step.Reads K x) : Blind (DifferAt K x) step where
  source hab name hname := hab.get? name fun he => h (.inl (he ▸ hname))
  command := by
    intro a b hab command hcommand
    have hscan : Scan K command.toList _ := hab.left ▸ a.scan_tokens command.toList
    refine Bindings.interpolate_congr (hab.left ▸ hscan) (hab.right ▸ hscan)
      fun name hname => hab.get? _ ?_
    rintro rfl
    exact h (.inr ⟨command, hcommand, _, hscan, by simpa using hname⟩)
  target hab name value _ := hab.keep name value

end Value

/-- Values for the inputs named `x` make no difference to the other variables. -/
theorem get?_bindInputs_congr {x : String} (inputs : List Input) (values values' : List String)
    (h : ∀ (i : Nat) (input : Input), inputs[i]? = some input → input.name ≠ x → values[i]? = values'[i]?)
    {a b : Bindings} (hab : ∀ v, v ≠ x → a.get? v = b.get? v) (v : String) (hv : v ≠ x) :
    (Document.bindInputs inputs values a).get? v = (Document.bindInputs inputs values' b).get? v := by
  induction inputs generalizing values values' a b with
  | nil => simpa only [Document.bindInputs] using hab v hv
  | cons input rest ih =>
    rw [Document.bindInputs_cons, Document.bindInputs_cons]
    refine ih _ _ (fun i other hother hne => ?_) fun w hw => ?_
    · simpa using h (i + 1) other (by simpa using hother) hne
    · rw [Bindings.get?_insert, Bindings.get?_insert, hab w hw]
      split_ifs with hw'
      · have hhead := h 0 input rfl (hw' ▸ hw)
        simp only [List.head?_eq_getElem?, hhead]
      · rfl

theorem differAt_vars {d : Document} {x : String} {args args' : Arguments}
    (h : ∀ (i : Nat) (input : Input), d.inputs[i]? = some input → input.name ≠ x →
      args.values[i]? = args'.values[i]?) :
    DifferAt d.nameTexts x (d.vars args) (d.vars args') where
  left := d.nameTexts_vars args
  right := d.nameTexts_vars args'
  get? v hv := by
    rw [Document.get?_vars, Document.get?_vars,
      get?_bindInputs_congr d.inputs args.values args'.values h (fun _ _ => rfl) v hv]

/-- Arguments that differ for inputs named `x` only, in a document that does not read `x`, make no
difference to what is seen of a run, to its entries, to its output, to how it ends and to the variables
other than `x`. Neither do identities and times, since the runner looks at the calls alone. -/
theorem run_unread_input (call : Command.Mode → String → σ → Command.Answer × σ)
    (occasion occasion' : Occasion) (d : Document) (x : String) (args args' : Arguments) (s : σ)
    (hreads : ¬ d.Reads x)
    (hargs : ∀ (i : Nat) (input : Input), d.inputs[i]? = some input → input.name ≠ x →
      args.values[i]? = args'.values[i]?) :
    let o := run (answering call) occasion d args s
    let o' := run (answering call) occasion' d args' s
    o.SameBut o' ∧ ∀ v, v ≠ x → o.report.vars.get? v = o'.report.vars.get? v := by
  intro o o'
  have hblind : ∀ step ∈ d.steps, Blind (DifferAt d.nameTexts x) step := fun step hstep =>
    blind_differAt fun h => hreads (.inr ⟨step, hstep, h⟩)
  have houtput : ∀ {a b : Bindings}, DifferAt d.nameTexts x a b →
      ∀ name, d.output = some name → a.get? name = b.get? name :=
    fun hab name hname => hab.get? name fun he => hreads (.inl (he ▸ hname))
  have hagree := agree_run (answering call) occasion d d args args' rfl rfl rfl hblind houtput
    (differAt_vars hargs) s
  obtain ⟨hsame, hvars⟩ := sameBut_run call occasion occasion' d args' s
  exact ⟨hagree.sameBut hsame, fun v hv => (hagree.vars.get? v hv).trans (by rw [hvars])⟩

theorem run_unread_input_prefix :
    let d : Document := {
      name := "p"
      inputs := [⟨"a", ""⟩, ⟨"ab", ""⟩]
      steps := [.capture "a" "echo $ab", .exec "test $ = $$b"]
      output := some "ab" }
    let occasion : Occasion := ⟨.zero, ⟨"1970-01-01T00:00:00Z", by decide⟩, fun _ => .zero, .zero⟩
    let occasion' : Occasion := { occasion with totalTime := ⟨1, 0, by decide, by decide⟩ }
    let o := run (answering Command.scripted.call) occasion d ⟨["1", "2"]⟩ []
    let o' := run (answering Command.scripted.call) occasion' d ⟨["9", "2"]⟩ []
    ¬ d.Reads "a" ∧ o.SameBut o' ∧ ∀ v, v ≠ "a" → o.report.vars.get? v = o'.report.vars.get? v := by
  intro d occasion occasion' o o'
  have hreads : ¬ d.Reads "a" := by decide
  have hargs : ∀ (i : Nat) (input : Input), d.inputs[i]? = some input → input.name ≠ "a" →
      ["1", "2"][i]? = ["9", "2"][i]? := by
    rintro (_ | i) input hi hne
    · exact absurd (congrArg Input.name (Option.some.inj hi)).symm hne
    · rfl
  exact ⟨hreads, run_unread_input _ occasion occasion' d "a" ⟨["1", "2"]⟩ ⟨["9", "2"]⟩ [] hreads hargs⟩

/-! ### A declaration more -/

section Declaration

variable {n v : String} {a : Bindings}

theorem keep_insert {name : String} (h : name ≠ n) (value : String) :
    (keep a name value).1 = (keep (a.insert n v) name value).1 ∧
      (keep (a.insert n v) name value).2 = (keep a name value).2.insert n v := by
  have hcontains : (a.insert n v).contains name = a.contains name := by
    simp [Bindings.contains_insert, h]
  by_cases hname : a.contains name = true
  · rw [keep_of_contains hname, keep_of_contains (hcontains ▸ hname)]
    exact ⟨rfl, Bindings.insert_comm a h⟩
  · rw [keep_of_not_contains hname, keep_of_not_contains (hcontains ▸ hname)]
    exact ⟨rfl, rfl⟩

theorem blind_insert {step : Step} (hsource : step.source? ≠ some n) (htarget : step.target? ≠ some n)
    (hcommand : ∀ command ∈ step.command?, ¬ ('$' :: n.toList) <:+: command.toList) :
    Blind (fun a b => b = a.insert n v) step where
  source := by
    rintro a _ rfl name hname
    have hne : name ≠ n := fun he => hsource (he ▸ hname)
    exact (a.get?_insert_of_ne v hne).symm
  command := by
    rintro a _ rfl command hstep
    exact (Bindings.interpolate_insert (hcommand command hstep) v).symm
  target := by
    rintro a _ rfl name value hname
    have hne : name ≠ n := fun he => htarget (he ▸ hname)
    exact keep_insert hne value

theorem vars_insert_declaration (d : Document) (args : Arguments) (n v : String) :
    { d with declarations := d.declarations.insert n v }.vars args = (d.vars args).insert n v := by
  refine Bindings.ext_get? fun name => ?_
  rw [Document.get?_vars, Bindings.get?_insert, Bindings.get?_insert, Document.get?_vars]
  split_ifs <;> rfl

end Declaration

/-- A declaration more makes no difference to a run but for its own variable, if no step has that as its
source or target, the output is another, and the name follows no dollar sign of a command. -/
theorem run_insert_declaration (d : Document) (args : Arguments) (n v : String)
    (hsteps : ∀ step ∈ d.steps, step.source? ≠ some n ∧ step.target? ≠ some n ∧
      ∀ command ∈ step.command?, ¬ ('$' :: n.toList) <:+: command.toList)
    (houtput : d.output ≠ some n) :
    let d' : Document := { d with declarations := d.declarations.insert n v }
    (∀ {σ : Type} (runner : Command.Runner σ) (occasion : Occasion) (s : σ),
      let o := run runner occasion d args s
      run runner occasion d' args s = o.withVars (o.report.vars.insert n v)) ∧
    ∀ {σ : Type} (call : Command.Mode → String → σ → Command.Answer × σ)
      (occasion occasion' : Occasion) (s : σ),
      let o := run (answering call) occasion d args s
      let o' := run (answering call) occasion' d' args s
      o.SameBut o' ∧ o'.report.vars = o.report.vars.insert n v := by
  intro d'
  let R : Bindings → Bindings → Prop := fun a b => b = a.insert n v
  have hblind : ∀ step ∈ d.steps, Blind R step := fun step hstep =>
    blind_insert (hsteps step hstep).1 (hsteps step hstep).2.1 (hsteps step hstep).2.2
  have hread : ∀ {a b : Bindings}, R a b → ∀ name, d.output = some name → a.get? name = b.get? name := by
    rintro a _ rfl name hname
    have hne : name ≠ n := fun he => houtput (he ▸ hname)
    exact (a.get?_insert_of_ne v hne).symm
  have hagree : ∀ {σ : Type} (runner : Command.Runner σ) (occasion : Occasion) (s : σ),
      (run runner occasion d args s).Agree R (run runner occasion d' args s) := fun runner occasion s =>
    agree_run runner occasion d d' args args rfl rfl rfl hblind hread
      (vars_insert_declaration d args n v) s
  refine ⟨fun runner occasion s => (hagree runner occasion s).eq rfl rfl rfl, ?_⟩
  intro σ call occasion occasion' s
  obtain ⟨hsame, hvars⟩ := sameBut_run call occasion occasion' d' args s
  have h := hagree (answering call) occasion s
  exact ⟨h.sameBut hsame, hvars ▸ h.vars⟩

theorem run_insert_declaration_longer :
    let d : Document := {
      name := "p"
      inputs := [⟨"a", ""⟩]
      steps := [.capture "a" "echo $ab$a$", .assign "a" "a"]
      output := some "a" }
    let d' : Document := { d with declarations := d.declarations.insert "abx" "v" }
    let occasion : Occasion := ⟨.zero, ⟨"1970-01-01T00:00:00Z", by decide⟩, fun _ => .zero, .zero⟩
    let o := run Command.scripted occasion d ⟨["1"]⟩ []
    (∀ step ∈ d.steps, step.source? ≠ some "abx" ∧ step.target? ≠ some "abx" ∧
      ∀ command ∈ step.command?, ¬ ('$' :: "abx".toList) <:+: command.toList) ∧
    run Command.scripted occasion d' ⟨["1"]⟩ [] = o.withVars (o.report.vars.insert "abx" "v") := by
  intro d d' occasion o
  have hcommand : ¬ ('$' :: "abx".toList) <:+: "echo $ab$a$".toList := fun h =>
    absurd (h.subset (show 'x' ∈ '$' :: "abx".toList by decide)) (by decide)
  have hsteps : ∀ step ∈ d.steps, step.source? ≠ some "abx" ∧ step.target? ≠ some "abx" ∧
      ∀ command ∈ step.command?, ¬ ('$' :: "abx".toList) <:+: command.toList := by
    simpa [d, Step.source?, Step.target?, Step.command?] using hcommand
  exact ⟨hsteps, (run_insert_declaration d ⟨["1"]⟩ "abx" "v" hsteps (by decide)).1 _ occasion []⟩

end Run

end CommandPipeline
