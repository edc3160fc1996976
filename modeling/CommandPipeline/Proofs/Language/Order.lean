import CommandPipeline.Language.Machine
import CommandPipeline.Proofs.Language.Grammar

/-! Orders in which the forms of a section can be tried. Since no line is of two forms, all of them lead to
the same reading, and a variable may have the name of a keyword. -/
namespace CommandPipeline.Language

variable {line : String} {r : Reading} {s : Step}

/-! ### Steps and the closing line -/

/-- Accepts a line among the steps, with the forms of steps and of the closing line tried in an order. -/
def acceptInOrder (order : List Form) (line : Line) (d : Draft) : Except ParseError Accepted :=
  match firstReading order line.text with
  | some (.step s) => .ok {
      move := .advance .pipeline
      draft := d.addStep s
      records := [⟨.trace, Log.machine,
        "step " ++ toString d.document.steps.length ++ ": " ++ s.render⟩] }
  | some (.ending _) => .ok { move := .reconsume .ending, draft := d }
  | _ => .error (malformedLine .pipeline line)

theorem firstReading_ending_cons (order : List Form) (line : String) :
    firstReading (.ending :: order) line = ((ending? line).map .ending).or (firstReading order line) := by
  simp only [firstReading, List.findSome?_cons, Form.read?]
  cases ending? line <;> rfl

theorem acceptInOrder_eq {order : List Form} (h : order.Perm [.ending, .capture, .assign, .exec])
    (line : Line) (d : Draft) : acceptInOrder order line d = acceptStep line d := by
  rw [acceptInOrder, firstReading_perm h, firstReading_ending_cons, ← map_step?, acceptStep]
  cases ending? line.text with
  | some output => rfl
  | none => cases step? line.text <;> rfl

/-! ### Names that are keywords -/

def keywords : List String := ["pipeline", "use", "rand", "read", "begin", "end"]

theorem identifier_of_mem_keywords {k : String} (h : k ∈ keywords) : Identifier k := by
  rw [identifier_iff]
  revert k
  decide

/-- The line is a step and nothing else. -/
structure SaysOnly (line : String) (s : Step) : Prop where
  step : step? line = some s
  definition : definition? line = none
  declaration : declaration? line = none
  ending : ending? line = none

theorem Derives.saysOnly (h : Derives (.step s) line) : SaysOnly line s where
  step := step?_iff.2 h
  definition := Option.eq_none_iff_forall_ne_some.2 fun n hn => by
    cases h.unique (definition?_iff.1 hn)
  declaration := Option.eq_none_iff_forall_ne_some.2 fun d hd => by
    cases h.unique (declaration?_iff.1 hd)
  ending := Option.eq_none_iff_forall_ne_some.2 fun o ho => by
    cases h.unique (ending?_iff.1 ho)

theorem form_eq_of_read? {f g : Form} (hf : (f.read? line).isSome = true)
    (hg : (g.read? line).isSome = true) : f = g := by
  obtain ⟨r, hr⟩ := Option.isSome_iff_exists.1 hf
  obtain ⟨r', hr'⟩ := Option.isSome_iff_exists.1 hg
  obtain ⟨rfl, h⟩ := Form.read?_eq_some_iff.1 hr
  obtain ⟨rfl, h'⟩ := Form.read?_eq_some_iff.1 hr'
  exact h.form_unique h'

/-- A line is of one form at most. So steps and declarations are recognised alike in whatever order their
forms are tried, the closing line may be tried before the steps, behind them or between them, and an
assignment to a variable that is named like a keyword is no other line. -/
theorem forms_in_any_order (line : String) :
    (∀ f g : Form, (f.read? line).isSome = true → (g.read? line).isSome = true → f = g) ∧
    (∀ order : List Form, order.Perm [.capture, .assign, .exec] →
      firstReading order line = (step? line).map .step) ∧
    (∀ order : List Form, order.Perm [.begin, .use, .rand, .read] →
      firstReading order line = (declaration? line).map .declaration) ∧
    (∀ order : List Form, order.Perm [.ending, .capture, .assign, .exec] → ∀ number d,
      acceptInOrder order ⟨number, line⟩ d = acceptStep ⟨number, line⟩ d) ∧
    ∀ target ∈ keywords, ∀ w v, Blank w → Blank v →
      (∀ source, Identifier source → line = target ++ w ++ "=" ++ v ++ source →
        SaysOnly line (.assign target source)) ∧
      ∀ command, command ≠ "" → '\n' ∉ command.toList →
        line = target ++ w ++ "=" ++ v ++ "(" ++ command ++ ")" →
        SaysOnly line (.capture target command) := by
  refine ⟨fun f g => form_eq_of_read?, fun order h => ?_, fun order h => ?_,
    fun order h number d => acceptInOrder_eq h _ d, fun target htarget w v hw hv => ⟨?_, ?_⟩⟩
  · rw [firstReading_perm h, map_step?]
  · rw [firstReading_perm h, map_declaration?]
  · rintro source hsource rfl
    exact (Derives.assign (identifier_of_mem_keywords htarget) hsource hw hv).saysOnly
  · rintro command hne hline rfl
    exact (Derives.capture (identifier_of_mem_keywords htarget) hne hline hw hv).saysOnly

/-- Two keywords as names. -/
theorem forms_in_any_order_keywords :
    let line := "end = begin"
    let order : List Form := [.exec, .ending, .assign, .capture]
    "end" ∈ keywords ∧ Identifier "begin" ∧ Form.assign.read? line = some (.step (.assign "end" "begin")) ∧
      SaysOnly line (.assign "end" "begin") ∧
      ∀ d, acceptInOrder order ⟨4, line⟩ d = acceptStep ⟨4, line⟩ d := by
  intro line order
  have hbegin : Identifier "begin" := identifier_of_mem_keywords (by decide)
  obtain ⟨-, -, -, haccept, hnames⟩ := forms_in_any_order line
  have hblank : Blank " " := blanks_space
  have hsays := (hnames "end" (by decide) " " " " hblank hblank).1 "begin" hbegin rfl
  exact ⟨by decide, hbegin, by decide, hsays, haccept order (by decide) 4⟩

end CommandPipeline.Language
