import CommandPipeline.Proofs.Language.Fault
import CommandPipeline.Proofs.Language.Written

/-! What reading a text owes to the letters that are drawn for its tokens, and to the length of the tokens.
Neither decides whether the text is read, nor where it fails, and of the document only the variables whose
last declaration is random depend on them. -/
namespace CommandPipeline.Language

/-! ### Tokens -/

/-- A text of so many ASCII letters and digits. -/
def IsToken (length : Nat) (value : String) : Prop :=
  value.length = length ∧ ∀ c ∈ value.toList, c.isAlphanum = true

theorem isToken_token (tokens : TokenSource) (k : Nat) : IsToken tokens.length (tokens.token k) := by
  refine ⟨length_randomToken _ _, fun c hc => ?_⟩
  rw [TokenSource.token, randomToken, String.toList_ofList] at hc
  obtain ⟨i, -, rfl⟩ := List.mem_map.1 hc
  exact isAlphanum_tokenLetter _

/-! ### First values -/

/-- The last of the declarations that give the variable `name` its first value. -/
def lastDeclaring? (ds : List Declaration) (name : String) : Option Declaration :=
  ds.reverse.find? fun a => a.declares? = some name

theorem lastDeclaring?_append {ds after : List Declaration} {a : Declaration} {name : String}
    (ha : a.declares? = some name) (hafter : ∀ e ∈ after, e.declares? ≠ some name) :
    lastDeclaring? (ds ++ a :: after) name = some a := by
  have hnone : after.reverse.find? (fun a => a.declares? = some name) = none := by
    simpa using hafter
  simp [lastDeclaring?, List.find?_append, hnone, ha]

/-- `FirstValue length a value`: a declaration that gives a variable its first value can give it this one. -/
inductive FirstValue (length : Nat) : Declaration → String → Prop where
  | use (name : String) : FirstValue length (.use name) ""
  | rand (name : String) {value : String} : IsToken length value → FirstValue length (.rand name) value

theorem firstValue_of_value? {tokens : TokenSource} {drawn : Nat} {a : Declaration} {value : String}
    (h : a.value? tokens drawn = some value) : FirstValue tokens.length a value := by
  cases a with
  | use name =>
    obtain rfl := Option.some.inj h
    exact .use name
  | rand name =>
    obtain rfl := Option.some.inj h
    exact .rand name (isToken_token tokens drawn)
  | read _ => contradiction
  | begin => contradiction

/-- The value that the last declaration gives is of the kind of that declaration. -/
theorem LastGives.firstValue {tokens : TokenSource} {ds : List Declaration} {name value : String}
    (h : LastGives tokens ds name value) :
    ∃ a, lastDeclaring? ds name = some a ∧ FirstValue tokens.length a value := by
  obtain ⟨before, a, after, rfl, ha, hvalue, hafter⟩ := h
  exact ⟨a, lastDeclaring?_append ha hafter, firstValue_of_value? hvalue⟩

/-- A variable of an outline's document has a first value of the kind of its last declaration. -/
theorem Outline.Denotes.firstValue {tokens : TokenSource} {o : Outline} {d : Document} {name : String}
    {a : Declaration} (h : o.Denotes tokens d) (ha : lastDeclaring? o.declared name = some a) :
    ∃ value, d.declarations.get? name = some value ∧ FirstValue tokens.length a value := by
  have hdeclares : ∃ a ∈ o.declared, a.declares? = some name :=
    ⟨a, List.mem_reverse.1 (List.mem_of_find?_eq_some ha), by simpa using List.find?_some ha⟩
  obtain ⟨value, hvalue⟩ := (exists_lastGives_iff tokens o.declared name).2 hdeclares
  obtain ⟨b, hb, hfirst⟩ := hvalue.firstValue
  obtain rfl := Option.some.inj (ha.symm.trans hb)
  exact ⟨value, (h.values name value).2 hvalue, hfirst⟩

/-! ### Errors -/

section Errors

variable (tokens other : TokenSource)

/-- Whether a line has a form of its section depends on the line alone. -/
theorem follow?_eq_none {place : Section} {d : Draft} {text : String}
    (h : follow? tokens (place, d) text = none) (e : Draft) : follow? other (place, e) text = none := by
  cases place with
  | definition | declaration | ending => simpa [follow?] using h
  | pipeline => cases hend : ending? text <;> simp_all [follow?]

theorem faulty_tokens {source : String} {place : Section} {line : Line}
    (h : Faulty tokens source place line) : Faulty other source place line := by
  obtain ⟨before, after, d, hlines, hlead, hnone⟩ := (faulty_iff tokens source place line).1 h
  obtain ⟨e, he⟩ := (begun_iff other).1 ((begun_iff tokens).2 ⟨d, hlead⟩)
  exact (faulty_iff other source place line).2
    ⟨before, after, e, hlines, he, follow?_eq_none tokens other hnone e⟩

/-- A text that is not read fails alike whatever is drawn. -/
theorem parse_eq_error {source : String} {e : ParseError} (h : parse tokens source = .error e) :
    parse other source = .error e := by
  rw [parse_eq_error_iff] at h ⊢
  rcases h with h | h | h | ⟨place, line, h, rfl⟩
  · exact .inl h
  · exact .inr (.inl h)
  · exact .inr (.inr (.inl h))
  · exact .inr (.inr (.inr ⟨place, line, faulty_tokens tokens other h, rfl⟩))

end Errors

/-! ### Two readings -/

/-- Readings of one text with tokens of any lengths and letters fail alike, or give documents that are the
same but for the values of variables. A variable whose last declaration is not random starts empty in both
documents, and any other one starts in each with a token of the length that was asked for. -/
theorem parse_drawing (tokens other : TokenSource) (source : String) :
    (∃ e, parse tokens source = .error e ∧ parse other source = .error e) ∨
    ∃ (o : Outline) (d d' : Document), o.lines = significantTexts source ∧
      parse tokens source = .ok d ∧ parse other source = .ok d' ∧
      d.name = d'.name ∧ d.inputs = d'.inputs ∧ d.steps = d'.steps ∧ d.output = d'.output ∧
      (∀ name, name ∈ d.declarations.names ↔ name ∈ d'.declarations.names) ∧
      ∀ name ∈ d.declarations.names, ∃ a value value', lastDeclaring? o.declared name = some a ∧
        d.declarations.get? name = some value ∧ d'.declarations.get? name = some value' ∧
        FirstValue tokens.length a value ∧ FirstValue other.length a value' := by
  cases h : parse tokens source with
  | error e => exact .inl ⟨e, rfl, parse_eq_error tokens other h⟩
  | ok d =>
    right
    obtain ⟨e, he, rfl⟩ := (parse_eq_ok_iff tokens source d).1 h
    obtain ⟨o, ho⟩ := exists_outline he
    obtain ⟨f, hf, hd⟩ := o.exists_follow tokens
    obtain ⟨f', hf', hd'⟩ := o.exists_follow other
    rw [ho, he] at hf
    obtain ⟨-, rfl⟩ := Prod.mk.inj (Option.some.inj hf)
    refine ⟨o, e.document, f'.document, ho, rfl, (parse_eq_ok_iff other source _).2 ⟨f', ho ▸ hf', rfl⟩,
      Option.some.inj (hd.name.symm.trans hd'.name), hd.inputs.trans hd'.inputs.symm,
      (List.map_inj_right fun _ _ => Option.some.inj).1 (hd.steps.symm.trans hd'.steps),
      Option.some.inj (hd.output.symm.trans hd'.output),
      fun name => (hd.names name).trans (hd'.names name).symm, fun name hname => ?_⟩
    obtain ⟨value, hvalue⟩ := (exists_lastGives_iff tokens o.declared name).2 ((hd.names name).1 hname)
    obtain ⟨a, ha, hfirst⟩ := hvalue.firstValue
    obtain ⟨value', hget, hfirst'⟩ := hd'.firstValue ha
    exact ⟨a, value, value', ha, (hd.values name value).2 hvalue, hget, hfirst, hfirst'⟩

end CommandPipeline.Language
