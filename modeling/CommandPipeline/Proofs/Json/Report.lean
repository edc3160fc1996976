import CommandPipeline.Display.Lines
import CommandPipeline.Json.Report
import CommandPipeline.Proofs.Json.Codec

/-! Reports that are written as JSON are read back as they were. What is read as a report may be written in more
ways: a record as the array of its fields, an entry without an error, and a duration with a second and more of
nanoseconds, which are carried into the seconds. None of this changes a span of time, and it is all gone once
the report is written anew. -/
namespace CommandPipeline

/-! ### Identifiers -/

namespace Uuid

theorem hexValue?_hexDigit : ∀ d : Fin 16, hexValue? (hexDigit d) = some d := by
  decide

theorem ofDigits?_map_hexDigit (u : Uuid) : ofDigits? (u.digits.map hexDigit) = some u := by
  have hdigits : (u.digits.map hexDigit).mapM hexValue? = some u.digits := by
    rw [Json.mapM_eq_some_iff, List.forall₂_map_left_iff]
    exact List.forall₂_same.2 fun d _ => hexValue?_hexDigit d
  rw [ofDigits?, hdigits]
  exact dif_pos u.length_eq

/-- A hyphen is no digit. -/
theorem ofDigits?_of_hyphen {cs : List Char} (h : '-' ∈ cs) : ofDigits? cs = none := by
  obtain ⟨before, after, rfl⟩ := List.append_of_mem h
  have hhyphen : hexValue? '-' = none := by decide
  have hnone : (before ++ '-' :: after).mapM hexValue? = none := by
    rw [List.mapM_append, List.mapM_cons, hhyphen]
    cases before.mapM hexValue? <;> rfl
  rw [ofDigits?, hnone]

theorem getElem?_group {g r : List Char} {n : Nat} (h : g.length = n) : (g ++ '-' :: r)[n]? = some '-' := by
  subst h
  simp

theorem drop_group {g r : List Char} {n : Nat} (h : g.length = n) : (g ++ '-' :: r).drop (n + 1) = r := by
  subst h
  simp

theorem ofHyphenated?_groups {a b c d e : List Char} (ha : a.length = 8) (hb : b.length = 4)
    (hc : c.length = 4) (hd : d.length = 4) (he : e.length = 12) :
    ofHyphenated? (a ++ '-' :: (b ++ '-' :: (c ++ '-' :: (d ++ '-' :: e)))) =
      ofDigits? (a ++ b ++ c ++ d ++ e) := by
  generalize hcs : a ++ '-' :: (b ++ '-' :: (c ++ '-' :: (d ++ '-' :: e))) = cs
  have hlength : cs.length = 36 := by simp [← hcs, ha, hb, hc, hd, he]
  have h9 : cs.drop 9 = b ++ '-' :: (c ++ '-' :: (d ++ '-' :: e)) := hcs ▸ drop_group ha
  have h14 : cs.drop 14 = c ++ '-' :: (d ++ '-' :: e) := by
    have h := drop_group (r := c ++ '-' :: (d ++ '-' :: e)) hb
    rwa [← h9, List.drop_drop] at h
  have h19 : cs.drop 19 = d ++ '-' :: e := by
    have h := drop_group (r := d ++ '-' :: e) hc
    rwa [← h14, List.drop_drop] at h
  have h24 : cs.drop 24 = e := by
    have h := drop_group (r := e) hd
    rwa [← h19, List.drop_drop] at h
  have h8 : cs[8]? = some '-' := hcs ▸ getElem?_group ha
  have h13 : cs[13]? = some '-' := by rw [← getElem?_group hb, ← h9, List.getElem?_drop]
  have h18 : cs[18]? = some '-' := by rw [← getElem?_group hc, ← h14, List.getElem?_drop]
  have h23 : cs[23]? = some '-' := by rw [← getElem?_group (r := e) hd, ← h19, List.getElem?_drop]
  rw [ofHyphenated?, if_pos ⟨hlength, h8, h13, h18, h23⟩, h9, h14, h19, h24, List.take_left' hb,
    List.take_left' hc, List.take_left' hd, ← hcs, List.take_left' ha]

theorem take_append_groups {cs : List Char} (h : cs.length = 32) :
    cs.take 8 ++ (cs.drop 8).take 4 ++ (cs.drop 12).take 4 ++ (cs.drop 16).take 4 ++
      (cs.drop 20).take 12 = cs := by
  have hnext : ∀ i k, (cs.drop i).take k ++ cs.drop (i + k) = cs.drop i := fun i k => by
    rw [← List.drop_drop, List.take_append_drop]
  have hlast : (cs.drop 20).take 12 = cs.drop 20 := List.take_of_length_le (by simp [h])
  rw [hlast, List.append_assoc, hnext 16 4, List.append_assoc, hnext 12 4, List.append_assoc, hnext 8 4,
    List.take_append_drop]

theorem parse?_render (u : Uuid) : parse? u.render = some u := by
  have hlength : (u.digits.map hexDigit).length = 32 := by rw [List.length_map, u.length_eq]
  unfold parse? render
  simp only [String.toList_ofList, List.append_assoc, List.cons_append, List.drop_zero]
  rw [ofDigits?_of_hyphen (by simp), ofHyphenated?_groups (by simp [hlength]) (by simp [hlength])
    (by simp [hlength]) (by simp [hlength]) (by simp [hlength]), take_append_groups hlength,
    ofDigits?_map_hexDigit]

end Uuid

theorem Timestamp.parse?_eq_some_iff {text : String} {t : Timestamp} : parse? text = some t ↔ text = t.text := by
  constructor
  · intro h
    unfold parse? at h
    split_ifs at h
    exact congrArg Timestamp.text (Option.some.inj h)
  · rintro rfl
    exact t.parse?_text

/-- Seconds and nanoseconds make up a duration exactly if they come to as many nanoseconds. -/
theorem Duration.ofParts?_eq_some_iff {secs nanos : Nat} {d : Duration} :
    ofParts? secs nanos = some d ↔ secs * 1000000000 + nanos = d.totalNanos := by
  constructor
  · exact fun h => (totalNanos_ofParts? h).symm
  · intro h
    have hnanos := d.nanos_lt
    unfold totalNanos at h
    have hsecs : secs + nanos / 1000000000 = d.secs := by omega
    have hrest : nanos % 1000000000 = d.nanos := by omega
    simp only [ofParts?, hsecs, hrest, d.secs_lt, ↓reduceDIte]

namespace Json

open Run (Entry Report)

/-! ### Durations -/

/-- Seconds and nanoseconds as they are written, which may be a second and more of nanoseconds. -/
structure Span where
  secs : Nat
  nanos : Nat

def Span.total (t : Span) : Nat := t.secs * 1000000000 + t.nanos

/-- `SpanForm v t`: the value `v` says the span `t`, and nothing else. -/
inductive SpanForm : Value → Span → Prop where
  | object {fields : List (String × Value)} {t : Span} :
      Value.field? "secs" fields = some (.ofNat t.secs) →
      Value.field? "nanos" fields = some (.ofNat t.nanos) →
      (∀ f ∈ fields, f.1 = "secs" ∨ f.1 = "nanos") → SpanForm (.object fields) t
  | array (t : Span) : SpanForm (.array [.ofNat t.secs, .ofNat t.nanos]) t

/-- `DurationForm v d`: the value `v` says a span in words of 64 and 32 bits that is as long as `d`. -/
def DurationForm (v : Value) (d : Duration) : Prop :=
  ∃ t, SpanForm v t ∧ t.secs < UInt64.size ∧ t.nanos < UInt32.size ∧ t.total = d.totalNanos

theorem nat?_eq_some_iff {v : Value} {bound n : Nat} : v.nat? bound = some n ↔ v = .ofNat n ∧ n < bound := by
  constructor
  · intro h
    unfold Value.nat? at h
    split at h
    · split_ifs at h with hlt
      obtain rfl := Option.some.inj h
      exact ⟨rfl, hlt⟩
    · contradiction
  · rintro ⟨rfl, hlt⟩
    exact if_pos hlt

theorem duration_eq_some_iff {secs nanos : Found} {d : Duration} :
    duration secs nanos = some d ↔ ∃ t : Span, secs.required (Value.nat? UInt64.size) = some t.secs ∧
      nanos.required (Value.nat? UInt32.size) = some t.nanos ∧ t.total = d.totalNanos := by
  simp only [duration, Option.bind_eq_bind, Option.bind_eq_some_iff, Duration.ofParts?_eq_some_iff]
  constructor
  · rintro ⟨secs, hsecs, nanos, hnanos, htotal⟩
    exact ⟨⟨secs, nanos⟩, hsecs, hnanos, htotal⟩
  · rintro ⟨t, hsecs, hnanos, htotal⟩
    exact ⟨t.secs, hsecs, t.nanos, hnanos, htotal⟩

theorem duration?_object_eq_some_iff {fields : List (String × Value)} {d : Duration} :
    duration? (.object fields) = some d ↔ DurationForm (.object fields) d := by
  have hknown : (fields.all fun f => f.1 == "secs" || f.1 == "nanos") = true ↔
      ∀ f ∈ fields, f.1 = "secs" ∨ f.1 = "nanos" := by
    simp
  unfold duration?
  simp only [record?_object, List.map_cons, List.map_nil]
  cases hall : fields.all fun f => f.1 == "secs" || f.1 == "nanos" with
  | false =>
    simp only [reduceCtorEq, false_iff]
    rintro ⟨t, ⟨-, -, hfields⟩, -⟩
    simp [hknown.2 hfields] at hall
  | true =>
    simp only [duration_eq_some_iff, required_found_eq_some_iff, nat?_eq_some_iff]
    constructor
    · rintro ⟨t, ⟨_, hsecs, rfl, hlt⟩, ⟨_, hnanos, rfl, hlt'⟩, htotal⟩
      exact ⟨t, .object hsecs hnanos (hknown.1 hall), hlt, hlt', htotal⟩
    · rintro ⟨t, ⟨hsecs, hnanos, -⟩, hlt, hlt', htotal⟩
      exact ⟨t, ⟨_, hsecs, rfl, hlt⟩, ⟨_, hnanos, rfl, hlt'⟩, htotal⟩

theorem duration?_array_eq_some_iff {items : List Value} {d : Duration} :
    duration? (.array items) = some d ↔ DurationForm (.array items) d := by
  constructor
  · intro h
    rcases items with _ | ⟨secs, _ | ⟨nanos, _ | ⟨other, rest⟩⟩⟩
    case cons.cons.nil =>
      simp only [duration?, record?, positional, Option.map_some, duration_eq_some_iff, Found.required,
        nat?_eq_some_iff] at h
      obtain ⟨t, ⟨rfl, hlt⟩, ⟨rfl, hlt'⟩, htotal⟩ := h
      exact ⟨t, .array t, hlt, hlt', htotal⟩
    all_goals simp [duration?, record?, positional, duration, Found.required] at h
  · rintro ⟨t, ⟨⟩, hlt, hlt', htotal⟩
    simp only [duration?, record?, positional, Option.map_some, duration_eq_some_iff, Found.required,
      nat?_eq_some_iff]
    exact ⟨t, ⟨rfl, hlt⟩, ⟨rfl, hlt'⟩, htotal⟩

theorem duration?_eq_some_iff {v : Value} {d : Duration} : duration? v = some d ↔ DurationForm v d := by
  cases v with
  | object fields => exact duration?_object_eq_some_iff
  | array items => exact duration?_array_eq_some_iff
  | _ =>
    constructor
    · intro h
      simp [duration?, record?] at h
    · rintro ⟨t, ⟨⟩, -⟩

/-- Two of these seconds are written as nanoseconds. -/
example : duration? (.array [.ofNat 1, .ofNat 2500000000]) =
    some ⟨3, 500000000, by decide, by decide⟩ := by
  decide

/-- The span with whole seconds of its nanoseconds carried. -/
def Span.carried (t : Span) : Span := ⟨t.secs + t.nanos / 1000000000, t.nanos % 1000000000⟩

def Span.ofDuration (d : Duration) : Span := ⟨d.secs, d.nanos⟩

theorem spanForm_ofDuration (d : Duration) : SpanForm (ofDuration d) (.ofDuration d) :=
  .object rfl rfl (by simp)

theorem durationForm_ofDuration (d : Duration) : DurationForm (ofDuration d) d := by
  have hnanos := d.nanos_lt
  refine ⟨_, spanForm_ofDuration d, d.secs_lt, ?_, rfl⟩
  simp only [Span.ofDuration, UInt32.size]
  omega

theorem Span.carried_eq {t : Span} {d : Duration} (h : t.total = d.totalNanos) : t.carried = .ofDuration d := by
  have hnanos := d.nanos_lt
  unfold Span.total Duration.totalNanos at h
  simp only [Span.carried, Span.ofDuration, Span.mk.injEq]
  omega

theorem Span.total_carried (t : Span) : t.carried.total = t.total := by
  simp only [Span.total, Span.carried]
  omega

/-! ### Entries -/

/-- `EntryForm v e`: the value `v` is a form of the entry `e`. -/
inductive EntryForm : Value → Entry → Prop where
  | object {fields : List (String × Value)} {e : Entry} {elapsed : Value} :
      Value.field? "command" fields = some (.string e.command) →
      (Value.field? "error" fields).getD .null = ofOption e.error →
      Value.field? "elapsed" fields = some elapsed → DurationForm elapsed e.elapsed →
      EntryForm (.object fields) e
  | array {e : Entry} {elapsed : Value} : DurationForm elapsed e.elapsed →
      EntryForm (.array [.string e.command, ofOption e.error, elapsed]) e

theorem entryForm_ofEntry (e : Entry) : EntryForm (ofEntry e) e :=
  .object rfl rfl rfl (durationForm_ofDuration e.elapsed)

theorem entry?_object_eq_some_iff {fields : List (String × Value)} {e : Entry} :
    entry? (.object fields) = some e ↔ EntryForm (.object fields) e := by
  simp only [ entry?, record?_object, List.map_cons, List.map_nil, Option.bind_eq_bind, Option.bind_some,
    Option.bind_eq_some_iff, Option.some.injEq, required_found_eq_some_iff, nullable_found_eq_some_iff,
    string?_eq_some_iff, duration?_eq_some_iff]
  constructor
  · rintro ⟨command, ⟨_, hcommand, rfl⟩, error, herror, elapsed, ⟨v, hv, helapsed⟩, rfl⟩
    exact .object hcommand herror hv helapsed
  · rintro (⟨hcommand, herror, hv, helapsed⟩ | _)
    exact ⟨_, ⟨_, hcommand, rfl⟩, _, herror, _, ⟨_, hv, helapsed⟩, rfl⟩

theorem entry?_array_eq_some_iff {items : List Value} {e : Entry} :
    entry? (.array items) = some e ↔ EntryForm (.array items) e := by
  constructor
  · intro h
    rcases items with _ | ⟨command, _ | ⟨error, _ | ⟨elapsed, _ | ⟨other, rest⟩⟩⟩⟩
    case cons.cons.cons.nil =>
      simp only [ entry?, record?, positional, Option.map_some, Option.bind_eq_bind, Option.bind_some,
        Option.bind_eq_some_iff, Option.some.injEq, Found.required, nullable_present_eq_some_iff,
        string?_eq_some_iff, duration?_eq_some_iff] at h
      obtain ⟨command, rfl, error, rfl, elapsed, helapsed, rfl⟩ := h
      exact .array (e := ⟨command, error, elapsed⟩) helapsed
    all_goals simp [ entry?, record?, positional, Found.required, Found.nullable] at h
  · rintro (_ | helapsed)
    simp only [ entry?, record?, positional, Option.map_some, Option.bind_eq_bind, Option.bind_some,
      Option.bind_eq_some_iff, Option.some.injEq, Found.required, nullable_present_eq_some_iff,
      string?_eq_some_iff, duration?_eq_some_iff]
    exact ⟨_, rfl, _, rfl, _, helapsed, rfl⟩

theorem entry?_eq_some_iff {v : Value} {e : Entry} : entry? v = some e ↔ EntryForm v e := by
  cases v with
  | object fields => exact entry?_object_eq_some_iff
  | array items => exact entry?_array_eq_some_iff
  | _ =>
    constructor
    · intro h
      simp [ entry?, record?] at h
    · rintro (_ | _)

/-! ### Reports -/

/-- The values that the parts of a report are read from. -/
structure ReportParts (r : Report) (id startedAt vars entries totalTime output : Value) : Prop where
  id : ∃ text, id = .string text ∧ Uuid.parse? text = some r.id
  startedAt : startedAt = .string r.startedAt.text
  vars : ∃ pairs, vars = .object (textFields pairs) ∧ r.vars = .ofList pairs
  entries : ∃ items, entries = .array items ∧ List.Forall₂ EntryForm items r.entries
  totalTime : DurationForm totalTime r.totalTime
  output : output = .string r.output

/-- `ReportForm v r`: the value `v` is a form of the report `r`. -/
inductive ReportForm : Value → Report → Prop where
  | object {fields : List (String × Value)} {r : Report}
      {id startedAt vars entries totalTime output : Value} :
      Value.field? "execution_id" fields = some id → Value.field? "started_at" fields = some startedAt →
      Value.field? "variables" fields = some vars → Value.field? "exec_steps" fields = some entries →
      Value.field? "total_time" fields = some totalTime → Value.field? "output" fields = some output →
      ReportParts r id startedAt vars entries totalTime output → ReportForm (.object fields) r
  | array {r : Report} {id startedAt vars entries totalTime output : Value} :
      ReportParts r id startedAt vars entries totalTime output →
      ReportForm (.array [id, startedAt, vars, entries, totalTime, output]) r

theorem reportForm_ofReport (r : Report) : ReportForm (ofReport r) r := by
  refine .object rfl rfl rfl rfl rfl rfl ⟨⟨_, rfl, r.id.parse?_render⟩, rfl,
    ⟨_, rfl, r.vars.ofList_entries.symm⟩, ⟨_, rfl, ?_⟩, durationForm_ofDuration r.totalTime, rfl⟩
  rw [List.forall₂_map_left_iff]
  exact List.forall₂_same.2 fun e _ => entryForm_ofEntry e

theorem report?_object_eq_some_iff {fields : List (String × Value)} {r : Report} :
    report? (.object fields) = some r ↔ ReportForm (.object fields) r := by
  simp only [report?, record?_object, List.map_cons, List.map_nil, Option.bind_eq_bind, Option.bind_some,
    Option.bind_eq_some_iff, Option.some.injEq, required_found_eq_some_iff, string?_eq_some_iff,
    list?_eq_some_iff, entry?_eq_some_iff, bindings?_eq_some_iff, duration?_eq_some_iff,
    Timestamp.parse?_eq_some_iff]
  constructor
  · rintro ⟨idText, ⟨_, hid, rfl⟩, id, hidText, startedText, ⟨_, hstarted, rfl⟩, startedAt, rfl, vars,
      ⟨_, hvars, hpairs⟩, entries, ⟨_, hentries, hforms⟩, totalTime, ⟨_, htotal, htotalForm⟩, output,
      ⟨_, houtput, rfl⟩, rfl⟩
    exact .object hid hstarted hvars hentries htotal houtput
      ⟨⟨_, rfl, hidText⟩, rfl, hpairs, hforms, htotalForm, rfl⟩
  · rintro (⟨hid, hstarted, hvars, hentries, htotal, houtput, hparts⟩ | _)
    obtain ⟨⟨idText, rfl, hidText⟩, rfl, hpairs, hforms, htotalForm, rfl⟩ := hparts
    exact ⟨_, ⟨_, hid, rfl⟩, _, hidText, _, ⟨_, hstarted, rfl⟩, _, rfl, _, ⟨_, hvars, hpairs⟩, _,
      ⟨_, hentries, hforms⟩, _, ⟨_, htotal, htotalForm⟩, _, ⟨_, houtput, rfl⟩, rfl⟩

/-- An array of the fields of a report has all of them and no other item. -/
theorem exists_items_of_report? {items : List Value} {r : Report} (h : report? (.array items) = some r) :
    ∃ id startedAt vars entries totalTime output,
      items = [id, startedAt, vars, entries, totalTime, output] := by
  rcases items with _ | ⟨id, _ | ⟨startedAt, _ | ⟨vars, _ | ⟨entries, _ | ⟨totalTime, _ | ⟨output, _ |
    ⟨other, rest⟩⟩⟩⟩⟩⟩⟩
  case cons.cons.cons.cons.cons.cons.nil => exact ⟨_, _, _, _, _, _, rfl⟩
  all_goals simp [report?, record?, positional, Found.required] at h

theorem report?_array_eq_some_iff {id startedAt vars entries totalTime output : Value} {r : Report} :
    report? (.array [id, startedAt, vars, entries, totalTime, output]) = some r ↔
      ReportParts r id startedAt vars entries totalTime output := by
  simp only [report?, record?, positional, Option.map_some, Option.bind_eq_bind, Option.bind_some,
    Option.bind_eq_some_iff, Option.some.injEq, Found.required, string?_eq_some_iff, list?_eq_some_iff,
    entry?_eq_some_iff, bindings?_eq_some_iff, duration?_eq_some_iff, Timestamp.parse?_eq_some_iff]
  constructor
  · rintro ⟨idText, rfl, id, hidText, startedText, rfl, startedAt, rfl, vars, hpairs, entries, hforms,
      totalTime, htotalForm, output, rfl, rfl⟩
    exact ⟨⟨_, rfl, hidText⟩, rfl, hpairs, hforms, htotalForm, rfl⟩
  · rintro ⟨⟨idText, rfl, hidText⟩, rfl, hpairs, hforms, htotalForm, rfl⟩
    exact ⟨_, rfl, _, hidText, _, rfl, _, rfl, _, hpairs, _, hforms, _, htotalForm, _, rfl, rfl⟩

theorem report?_eq_some_iff {v : Value} {r : Report} : report? v = some r ↔ ReportForm v r := by
  cases v with
  | object fields => exact report?_object_eq_some_iff
  | array items =>
    constructor
    · intro h
      obtain ⟨_, _, _, _, _, _, rfl⟩ := exists_items_of_report? h
      exact .array (report?_array_eq_some_iff.1 h)
    · rintro (_ | hparts)
      exact report?_array_eq_some_iff.2 hparts
  | _ =>
    constructor
    · intro h
      simp [report?, record?] at h
    · rintro (_ | _)

/-! ### Spans of time -/

/-- `EntrySpan v t`: the value `v` says that its entry took the span `t`. -/
inductive EntrySpan : Value → Span → Prop where
  | object {fields : List (String × Value)} {elapsed : Value} {t : Span} :
      Value.field? "elapsed" fields = some elapsed → SpanForm elapsed t → EntrySpan (.object fields) t
  | array {command error elapsed : Value} {t : Span} : SpanForm elapsed t →
      EntrySpan (.array [command, error, elapsed]) t

/-- `ReportSpans v ts`: the value `v` says these spans, of the whole run first and then of its entries. -/
inductive ReportSpans : Value → List Span → Prop where
  | object {fields : List (String × Value)} {items : List Value} {totalTime : Value} {t : Span}
      {ts : List Span} : Value.field? "exec_steps" fields = some (.array items) →
      Value.field? "total_time" fields = some totalTime → SpanForm totalTime t →
      List.Forall₂ EntrySpan items ts → ReportSpans (.object fields) (t :: ts)
  | array {id startedAt vars totalTime output : Value} {items : List Value} {t : Span} {ts : List Span} :
      SpanForm totalTime t → List.Forall₂ EntrySpan items ts →
      ReportSpans (.array [id, startedAt, vars, .array items, totalTime, output]) (t :: ts)

/-- The spans of a report as they are written. -/
def spans (r : Report) : List Span := (r.totalTime :: r.entries.map Entry.elapsed).map .ofDuration

theorem reportSpans_ofReport (r : Report) : ReportSpans (ofReport r) (spans r) := by
  refine .object rfl rfl (spanForm_ofDuration r.totalTime) ?_
  rw [List.map_map, List.forall₂_map_left_iff, List.forall₂_map_right_iff]
  exact List.forall₂_same.2 fun e _ => .object rfl (spanForm_ofDuration e.elapsed)

theorem exists_entrySpan {v : Value} {e : Entry} (h : EntryForm v e) :
    ∃ t, EntrySpan v t ∧ t.carried = .ofDuration e.elapsed := by
  rcases h with ⟨-, -, hv, t, ht, -, -, htotal⟩ | ⟨t, ht, -, -, htotal⟩
  · exact ⟨t, .object hv ht, t.carried_eq htotal⟩
  · exact ⟨t, .array ht, t.carried_eq htotal⟩

theorem exists_entrySpans {items : List Value} {entries : List Entry}
    (h : List.Forall₂ EntryForm items entries) :
    ∃ ts, List.Forall₂ EntrySpan items ts ∧
      ts.map Span.carried = (entries.map Entry.elapsed).map .ofDuration := by
  induction h with
  | nil => exact ⟨[], .nil, rfl⟩
  | cons hv _ ih =>
    obtain ⟨t, ht, hcarried⟩ := exists_entrySpan hv
    obtain ⟨ts, hts, hrest⟩ := ih
    exact ⟨t :: ts, .cons ht hts, by rw [List.map_cons, hcarried, hrest]; rfl⟩

/-- The spans of what is read are those that it says, carried. -/
theorem exists_reportSpans {v : Value} {r : Report} (h : ReportForm v r) :
    ∃ ts, ReportSpans v ts ∧ ts.map Span.carried = spans r := by
  cases h with
  | object _ _ _ hentries htotal _ hparts =>
    obtain ⟨-, -, -, ⟨items, rfl, hforms⟩, ⟨t, ht, -, -, hlength⟩, -⟩ := hparts
    obtain ⟨ts, hts, hcarried⟩ := exists_entrySpans hforms
    refine ⟨t :: ts, .object hentries htotal ht hts, ?_⟩
    rw [List.map_cons, t.carried_eq hlength, hcarried]
    rfl
  | array hparts =>
    obtain ⟨-, -, -, ⟨items, rfl, hforms⟩, ⟨t, ht, -, -, hlength⟩, -⟩ := hparts
    obtain ⟨ts, hts, hcarried⟩ := exists_entrySpans hforms
    refine ⟨t :: ts, .array ht hts, ?_⟩
    rw [List.map_cons, t.carried_eq hlength, hcarried]
    rfl

/-- A report is read back from what it is written as. What is read as a report is exactly its forms. If it is
written anew, every span is as long as it was said to be and has less than a second of nanoseconds, and what is
read then is the same report, with the same failed step and the same times to show. -/
theorem reports_survive_json :
    (∀ r, report? (ofReport r) = some r) ∧
    (∀ v r, report? v = some r ↔ ReportForm v r) ∧
    (∀ t : Span, t.carried.nanos < 1000000000 ∧ t.carried.total = t.total) ∧
    ∀ v r, report? v = some r →
      (∃ ts, ReportSpans v ts ∧ ReportSpans (ofReport r) (ts.map Span.carried)) ∧
      ∃ r', report? (ofReport r) = some r' ∧ r' = r ∧ r'.failedStep = r.failedStep ∧
        Display.totalTimeLine r' = Display.totalTimeLine r ∧
        Display.timingLines r' = Display.timingLines r := by
  have hback : ∀ r, report? (ofReport r) = some r :=
    fun r => report?_eq_some_iff.2 (reportForm_ofReport r)
  refine ⟨hback, fun v r => report?_eq_some_iff,
    fun t => ⟨Nat.mod_lt t.nanos (by decide), t.total_carried⟩, fun v r h => ⟨?_, r, hback r, rfl, rfl, rfl, rfl⟩⟩
  obtain ⟨ts, hts, hcarried⟩ := exists_reportSpans (report?_eq_some_iff.1 h)
  exact ⟨ts, hts, hcarried ▸ reportSpans_ofReport r⟩

end Json

end CommandPipeline
