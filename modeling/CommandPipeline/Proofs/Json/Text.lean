import CommandPipeline.Json.Value
import Mathlib

/-! What a JSON text is. A grammar says which texts are JSON and which value each of them writes, and what
is printed for a value is a text of that value. A text opens with an ASCII character, and one that opens
with a brace ends with one. -/
namespace CommandPipeline.Json

/-! ### Spaces -/

/-- The characters that may stand around a value and around the marks of arrays and objects. -/
def spaces : List Char := [' ', '\n', '\r', '\t']

def Space (cs : List Char) : Prop := ∀ c ∈ cs, c ∈ spaces

theorem space_nil : Space [] := nofun

theorem space_blank : Space [' '] := List.forall_mem_singleton.2 (by decide)

theorem space_indent (depth : Nat) : Space (indent depth).toList := by
  intro c hc
  rw [indent, String.toList_ofList] at hc
  rw [List.eq_of_mem_replicate hc]
  exact List.mem_cons_self

theorem space_newline_indent (depth : Nat) : Space ('\n' :: (indent depth).toList) :=
  List.forall_mem_cons.2 ⟨by decide, space_indent depth⟩

/-! ### Numbers -/

/-- `Digits n cs`: the text is decimal digits of the number, perhaps behind zeros. -/
structure Digits (n : Nat) (cs : List Char) : Prop where
  ne_nil : cs ≠ []
  isDigit : ∀ c ∈ cs, c.isDigit = true
  value : Nat.ofDigitChars 10 cs 0 = n

inductive Sign : Rat → List Char → Prop where
  | plus : Sign 1 []
  | minus : Sign (-1) ['-']

/-- A whole number. It begins with a zero only if it is zero. -/
inductive Whole : Nat → List Char → Prop where
  | zero : Whole 0 ['0']
  | digits {n : Nat} {cs : List Char} : Digits n cs → cs.head? ≠ some '0' → Whole n cs

inductive Fraction : Rat → List Char → Prop where
  | absent : Fraction 0 []
  | digits {n : Nat} {cs : List Char} : Digits n cs → Fraction (n / 10 ^ cs.length) ('.' :: cs)

inductive Exponent : Int → List Char → Prop where
  | absent : Exponent 0 []
  | bare {e : Char} {n : Nat} {cs : List Char} : e ∈ ['e', 'E'] → Digits n cs → Exponent n (e :: cs)
  | plus {e : Char} {n : Nat} {cs : List Char} : e ∈ ['e', 'E'] → Digits n cs →
      Exponent n (e :: '+' :: cs)
  | minus {e : Char} {n : Nat} {cs : List Char} : e ∈ ['e', 'E'] → Digits n cs →
      Exponent (-n) (e :: '-' :: cs)

/-- `Numeral q cs`: the text is a number that is equal to `q`. -/
inductive Numeral : Rat → List Char → Prop where
  | mk {s f : Rat} {n : Nat} {e : Int} {ss ns fs es : List Char} : Sign s ss → Whole n ns →
      Fraction f fs → Exponent e es → Numeral (s * (n + f) * 10 ^ e) (ss ++ ns ++ fs ++ es)

theorem digits_toDigits (n : Nat) : Digits n (Nat.toDigits 10 n) where
  ne_nil := Nat.toDigits_ne_nil
  isDigit _ := Nat.isDigit_of_mem_toDigits (by decide) (by decide)
  value := Nat.ofDigitChars_ten_toDigits

/-- Zeros in front do not count. -/
theorem Digits.pad {n : Nat} {cs : List Char} (h : Digits n cs) (k : Nat) :
    Digits n (List.replicate k '0' ++ cs) where
  ne_nil := List.append_ne_nil_of_right_ne_nil _ h.ne_nil
  isDigit := List.forall_mem_append.2 ⟨fun c hc => List.eq_of_mem_replicate hc ▸ rfl, h.isDigit⟩
  value := by rw [Nat.ofDigitChars_append, Nat.ofDigitChars_replicate_zero, Nat.mul_zero, h.value]

/-- The digits of a number that is not zero begin with another digit. -/
theorem head?_toDigits {n : Nat} (hn : n ≠ 0) : (Nat.toDigits 10 n).head? ≠ some '0' := by
  induction n using Nat.strongRecOn with
  | ind n ih =>
    rcases Nat.lt_or_ge n 10 with hlt | hge
    · rw [Nat.toDigits_of_lt_base hlt]
      have hdigits : ∀ m < 10, m ≠ 0 → [Nat.digitChar m].head? ≠ some '0' := by decide
      exact hdigits n hlt hn
    · rw [Nat.toDigits_of_base_le (by decide) hge,
        List.head?_append_of_ne_nil _ Nat.toDigits_ne_nil]
      exact ih (n / 10) (by omega) (by omega)

theorem whole_toDigits (n : Nat) : Whole n (Nat.toDigits 10 n) := by
  by_cases hn : n = 0
  · subst hn
    exact .zero
  · exact .digits (digits_toDigits n) (head?_toDigits hn)

/-- Less than one, as so many digits behind the point. -/
theorem fraction_pad {n places : Nat} (hplaces : places ≠ 0) (hn : n < 10 ^ places) :
    Fraction (n / 10 ^ places)
      ('.' :: (List.replicate (places - (Nat.toDigits 10 n).length) '0' ++ Nat.toDigits 10 n)) := by
  have hlength : (Nat.toDigits 10 n).length ≤ places :=
    (Nat.length_toDigits_le_iff (by decide) (Nat.pos_of_ne_zero hplaces)).2 hn
  have hpad := (digits_toDigits n).pad (places - (Nat.toDigits 10 n).length)
  have hwidth : (List.replicate (places - (Nat.toDigits 10 n).length) '0' ++
      Nat.toDigits 10 n).length = places := by
    rw [List.length_append, List.length_replicate, Nat.sub_add_cancel hlength]
  have hfraction := Fraction.digits hpad
  rwa [hwidth] at hfraction

theorem digits_of_whole {n : Nat} {cs : List Char} (h : Whole n cs) : Digits n cs := by
  cases h with
  | zero => exact digits_toDigits 0
  | digits hdigits _ => exact hdigits

theorem Fraction.isDigit_head? {f : Rat} {cs : List Char} (h : Fraction f cs) :
    ∀ c ∈ cs.head?, c.isDigit = false := by
  cases h with
  | absent => exact nofun
  | digits _ => rintro c ⟨⟩; rfl

theorem Fraction.unique {f f' : Rat} {cs : List Char} (h : Fraction f cs)
    (h' : Fraction f' cs) : f = f' := by
  cases h with
  | absent =>
    cases h'
    rfl
  | digits hdigits =>
    cases h' with
    | digits hdigits' => rw [← hdigits.value, ← hdigits'.value]

/-- The sign that is printed before the digits of a number. -/
theorem exists_sign (m : Int) :
    ∃ s, Sign s (if m < 0 then "-" else "").toList ∧ s * (m.natAbs : Rat) = m := by
  cases m with
  | ofNat n => exact ⟨1, .plus, one_mul _⟩
  | negSucc n =>
    refine ⟨-1, ?_, ?_⟩
    · rw [if_pos (Int.negSucc_lt_zero n)]
      exact .minus
    · rw [Int.natAbs_negSucc, Int.cast_negSucc, neg_one_mul, Nat.succ_eq_add_one]

theorem toString_int (m : Int) : toString m = (if m < 0 then "-" else "") ++ toString m.natAbs := by
  cases m with
  | ofNat n => exact String.empty_append.symm
  | negSucc n =>
    rw [if_pos (Int.negSucc_lt_zero n)]
    rfl

theorem numeral_numberText (m : Int) (places : Nat) :
    Numeral (m / 10 ^ places) (numberText m places).toList := by
  obtain ⟨s, hsign, hs⟩ := exists_sign m
  by_cases hplaces : places = 0
  · have hnumeral := Numeral.mk hsign (whole_toDigits m.natAbs) .absent .absent
    rw [add_zero, zpow_zero, mul_one, hs, List.append_nil, List.append_nil] at hnumeral
    rw [numberText, if_pos hplaces, toString_int, String.toList_append, Nat.toString_eq_ofList_toDigits,
      String.toList_ofList, hplaces, pow_zero, div_one]
    exact hnumeral
  · have hbase : (10 : Rat) ^ places ≠ 0 := by positivity
    have hparts : ((m.natAbs / 10 ^ places : Nat) : Rat) + (m.natAbs % 10 ^ places : Nat) / 10 ^ places =
        m.natAbs / 10 ^ places := by
      field_simp
      exact_mod_cast Nat.div_add_mod' m.natAbs (10 ^ places)
    have hnumeral := Numeral.mk hsign (whole_toDigits (m.natAbs / 10 ^ places))
      (fraction_pad hplaces (Nat.mod_lt m.natAbs (by positivity))) .absent
    rw [hparts, zpow_zero, mul_one, ← mul_div_assoc, hs, List.append_nil] at hnumeral
    simp only [numberText, if_neg hplaces, String.toList_append, Nat.toString_eq_ofList_toDigits,
      String.toList_ofList]
    rw [List.append_assoc _ ".".toList]
    exact hnumeral

theorem Numeral.head {q : Rat} {c : Char} {cs : List Char} (h : Numeral q (c :: cs)) :
    c = '-' ∨ c.isDigit = true := by
  generalize hcs : c :: cs = text at h
  obtain ⟨hsign, hwhole, -, -⟩ := h
  cases hsign with
  | minus => exact .inl (List.cons.inj hcs).1
  | plus =>
    rw [List.nil_append, List.append_assoc] at hcs
    cases hwhole with
    | zero => exact .inr ((List.cons.inj hcs).1 ▸ rfl)
    | digits hdigits _ =>
      obtain ⟨d, ds, rfl⟩ := List.exists_cons_of_ne_nil hdigits.ne_nil
      exact .inr ((List.cons.inj hcs).1 ▸ hdigits.isDigit d List.mem_cons_self)

/-! ### Strings -/

/-- A digit of either case. -/
def HexDigit (n : Nat) (c : Char) : Prop := n < 16 ∧ c.toLower = Nat.digitChar n

/-- A number of sixteen bits in four digits. -/
inductive CodeUnit : Nat → List Char → Prop where
  | mk {i j k l : Nat} {a b c d : Char} : HexDigit i a → HexDigit j b → HexDigit k c → HexDigit l d →
      CodeUnit (((i * 16 + j) * 16 + k) * 16 + l) [a, b, c, d]

/-- The letters of the short escapes, and the characters that they stand for. -/
def shortEscapes : List (Char × Char) :=
  [('"', '"'), ('\\', '\\'), ('/', '/'), ('b', '\x08'), ('f', '\x0c'), ('n', '\n'), ('r', '\r'),
   ('t', '\t')]

/-- `Spelled c cs`: the text may stand for the character inside quotes. -/
inductive Spelled : Char → List Char → Prop where
  | plain {c : Char} : 0x20 ≤ c.toNat → c ≠ '"' → c ≠ '\\' → Spelled c [c]
  | short {e c : Char} : (e, c) ∈ shortEscapes → Spelled c ['\\', e]
  | unit {c : Char} {cs : List Char} : CodeUnit c.toNat cs → Spelled c ('\\' :: 'u' :: cs)
  /-- A character that does not fit into sixteen bits is written as two halves. -/
  | pair {c : Char} {high low : Nat} {hs ls : List Char} : high < 0x400 → low < 0x400 →
      c.toNat = 0x10000 + high * 0x400 + low → CodeUnit (0xD800 + high) hs →
      CodeUnit (0xDC00 + low) ls → Spelled c ('\\' :: 'u' :: hs ++ '\\' :: 'u' :: ls)

/-- Characters one behind the other. -/
inductive Characters : List Char → List Char → Prop where
  | nil : Characters [] []
  | cons {c : Char} {s cs ds : List Char} : Spelled c cs → Characters s ds →
      Characters (c :: s) (cs ++ ds)

inductive Quoted : String → List Char → Prop where
  | mk {s : String} {cs : List Char} : Characters s.toList cs → Quoted s ('"' :: cs ++ ['"'])

theorem hexDigit_digitChar {n : Nat} (h : n < 16) : HexDigit n (Nat.digitChar n) := by
  have hdigits : ∀ m < 16, (Nat.digitChar m).toLower = Nat.digitChar m := by decide
  exact ⟨h, hdigits n h⟩

/-- A character without a spelling of its own, as the number that it has. -/
theorem codeUnit_control {n : Nat} (h : n < 0x20) :
    CodeUnit n ['0', '0', Nat.digitChar (n / 16), Nat.digitChar (n % 16)] := by
  have hunit := CodeUnit.mk (hexDigit_digitChar (n := 0) (by decide))
    (hexDigit_digitChar (n := 0) (by decide)) (hexDigit_digitChar (n := n / 16) (by omega))
    (hexDigit_digitChar (n := n % 16) (by omega))
  rwa [Nat.zero_mul, Nat.zero_add, Nat.div_add_mod'] at hunit

theorem spelled_escapeChar (c : Char) : Spelled c (escapeChar c) := by
  have heq : ∀ d : Char, c.toNat = d.toNat → c = d := fun d => Char.toNat_inj.1
  simp only [escapeChar]
  split_ifs with hquote hslash hback hform hline hreturn htab hcontrol
  · obtain rfl := heq '"' hquote
    exact .short (by decide)
  · obtain rfl := heq '\\' hslash
    exact .short (by decide)
  · obtain rfl := heq '\x08' hback
    exact .short (by decide)
  · obtain rfl := heq '\x0c' hform
    exact .short (by decide)
  · obtain rfl := heq '\n' hline
    exact .short (by decide)
  · obtain rfl := heq '\r' hreturn
    exact .short (by decide)
  · obtain rfl := heq '\t' htab
    exact .short (by decide)
  · exact .unit (codeUnit_control hcontrol)
  · exact .plain (not_lt.1 hcontrol) (fun h => hquote (h ▸ rfl)) fun h => hslash (h ▸ rfl)

theorem characters_escapeChar (s : List Char) : Characters s (s.flatMap escapeChar) := by
  induction s with
  | nil => exact .nil
  | cons c s ih => exact .cons (spelled_escapeChar c) ih

theorem quoted_quote (s : String) : Quoted s (quote s).toList := by
  have hquoted := Quoted.mk (characters_escapeChar s.toList)
  simp only [quote, String.toList_append, String.toList_ofList]
  exact hquoted

/-! ### Values -/

/-- What a part of a text writes. -/
inductive Part where
  | value (v : Value)
  /-- Items between commas. -/
  | items (vs : List Value)
  /-- Fields between commas. -/
  | fields (fs : List (String × Value))

/-- `Derives part cs`: the text writes the part. -/
inductive Derives : Part → List Char → Prop where
  | null : Derives (.value .null) "null".toList
  | true : Derives (.value (.bool true)) "true".toList
  | false : Derives (.value (.bool false)) "false".toList
  | number {m : Int} {places : Nat} {cs : List Char} : Numeral (m / 10 ^ places) cs →
      Derives (.value (.number m places)) cs
  | string {s : String} {cs : List Char} : Quoted s cs → Derives (.value (.string s)) cs
  | emptyArray {w : List Char} : Space w → Derives (.value (.array [])) ('[' :: w ++ [']'])
  | array {vs : List Value} {cs : List Char} : Derives (.items vs) cs →
      Derives (.value (.array vs)) ('[' :: cs ++ [']'])
  | emptyObject {w : List Char} : Space w → Derives (.value (.object [])) ('\x7b' :: w ++ ['\x7d'])
  | object {fs : List (String × Value)} {cs : List Char} : Derives (.fields fs) cs →
      Derives (.value (.object fs)) ('\x7b' :: cs ++ ['\x7d'])
  /-- A value may stand between spaces. -/
  | item {v : Value} {w cs u : List Char} : Space w → Derives (.value v) cs → Space u →
      Derives (.items [v]) (w ++ cs ++ u)
  | items {v : Value} {vs : List Value} {cs ds : List Char} : Derives (.items [v]) cs →
      Derives (.items vs) ds → Derives (.items (v :: vs)) (cs ++ ',' :: ds)
  | field {name : String} {v : Value} {w ns u cs : List Char} : Space w → Quoted name ns → Space u →
      Derives (.items [v]) cs → Derives (.fields [(name, v)]) (w ++ ns ++ u ++ ':' :: cs)
  | fields {f : String × Value} {fs : List (String × Value)} {cs ds : List Char} :
      Derives (.fields [f]) cs → Derives (.fields fs) ds → Derives (.fields (f :: fs)) (cs ++ ',' :: ds)

/-- The text is JSON, and writes the value. -/
def Denotes (s : String) (v : Value) : Prop := Derives (.items [v]) s.toList

/-! ### What is printed for a value -/

/-- The text of a field. -/
def fieldText (depth : Nat) (f : String × Value) : String := quote f.1 ++ ": " ++ pretty depth f.2

theorem prettyItems_eq_map (depth : Nat) (vs : List Value) :
    prettyItems depth vs = vs.map (pretty depth) := by
  induction vs with
  | nil => rfl
  | cons v vs ih => rw [prettyItems, ih, List.map_cons]

theorem prettyFields_eq_map (depth : Nat) (fs : List (String × Value)) :
    prettyFields depth fs = fs.map (fieldText depth) := by
  induction fs with
  | nil => rfl
  | cons f fs ih => rw [prettyFields, ih, List.map_cons, fieldText]

/-- Items on lines of their own, if each of them may stand between spaces and two may stand around a comma. -/
theorem derives_lines {α : Type} {part : List α → Part} {text : α → String} (depth : Nat)
    (hmore : ∀ {x xs cs ds}, Derives (part [x]) cs → Derives (part xs) ds →
      Derives (part (x :: xs)) (cs ++ ',' :: ds)) {xs : List α} (hxs : xs ≠ [])
    (hone : ∀ x ∈ xs, ∀ w u, Space w → Space u → Derives (part [x]) (w ++ (text x).toList ++ u)) :
    Derives (part xs) ('\n' :: (",\n".intercalate (xs.map (indent (depth + 1) ++ text ·))).toList ++
      '\n' :: (indent depth).toList) := by
  -- The spaces before an item are its indentation, and those behind the last one are the bracket's.
  have hstart := space_newline_indent (depth + 1)
  induction xs with
  | nil => contradiction
  | cons x xs ih =>
    have hfirst := fun u => hone x List.mem_cons_self ('\n' :: (indent (depth + 1)).toList) u hstart
    cases xs with
    | nil => simpa using hfirst _ (space_newline_indent depth)
    | cons y ys =>
      have hrest := ih (List.cons_ne_nil y ys) fun x hx => hone x (List.mem_cons_of_mem _ hx)
      have hnewline : ",\n".toList = [',', '\n'] := rfl
      simpa [String.intercalate_cons_cons, hnewline] using hmore (hfirst [] space_nil) hrest

/-- Lines of items between brackets. -/
theorem toList_block {texts : List String} (htexts : texts ≠ []) (opening closing : String) (depth : Nat) :
    (block opening closing depth texts).toList =
      opening.toList ++ ('\n' :: (",\n".intercalate (texts.map (indent (depth + 1) ++ ·))).toList ++
        '\n' :: (indent depth).toList) ++ closing.toList := by
  cases texts with
  | nil => contradiction
  | cons text rest =>
    simp only [block, String.toList_append, List.append_assoc, List.cons_append]
    rfl

/-- An array of items that are printed as texts of theirs. -/
theorem derives_arrayBlock {depth : Nat} {vs : List Value}
    (hvs : ∀ v ∈ vs, Derives (.value v) (pretty (depth + 1) v).toList) :
    Derives (.value (.array vs)) (pretty depth (.array vs)).toList := by
  rw [pretty, prettyItems_eq_map]
  by_cases hnil : vs = []
  · subst hnil
    rw [List.map_nil, block, String.toList_append]
    exact .emptyArray space_nil
  · rw [toList_block (mt List.map_eq_nil_iff.1 hnil), List.map_map]
    exact .array (derives_lines depth .items hnil fun v hv w u hw hu => .item hw (hvs v hv) hu)

theorem derives_objectBlock {depth : Nat} {fs : List (String × Value)}
    (hfs : ∀ f ∈ fs, Derives (.value f.2) (pretty (depth + 1) f.2).toList) :
    Derives (.value (.object fs)) (pretty depth (.object fs)).toList := by
  rw [pretty, prettyFields_eq_map]
  by_cases hnil : fs = []
  · subst hnil
    rw [List.map_nil, block, String.toList_append]
    exact .emptyObject space_nil
  · rw [toList_block (mt List.map_eq_nil_iff.1 hnil), List.map_map]
    refine .object (derives_lines depth .fields hnil fun f hf w u hw hu => ?_)
    have hvalue := Derives.item space_blank (hfs f hf) hu
    have hfield := Derives.field hw (quoted_quote f.1) space_nil hvalue
    simpa [fieldText] using hfield

mutual

/-- What is printed for a value is a text of it. -/
theorem derives_pretty (depth : Nat) : ∀ v, Derives (.value v) (pretty depth v).toList
  | .null => .null
  | .bool true => .true
  | .bool false => .false
  | .number m places => .number (numeral_numberText m places)
  | .string s => .string (quoted_quote s)
  | .array vs => derives_arrayBlock (derives_pretty_of_mem (depth + 1) vs)
  | .object fs => derives_objectBlock (derives_pretty_of_mem_fields (depth + 1) fs)

theorem derives_pretty_of_mem (depth : Nat) :
    ∀ vs : List Value, ∀ v ∈ vs, Derives (.value v) (pretty depth v).toList
  | [] => nofun
  | v :: vs => List.forall_mem_cons.2 ⟨derives_pretty depth v, derives_pretty_of_mem depth vs⟩

theorem derives_pretty_of_mem_fields (depth : Nat) :
    ∀ fs : List (String × Value), ∀ f ∈ fs, Derives (.value f.2) (pretty depth f.2).toList
  | [] => nofun
  | (_, v) :: fs => List.forall_mem_cons.2 ⟨derives_pretty depth v, derives_pretty_of_mem_fields depth fs⟩

end

theorem Derives.opens {v : Value} {c : Char} {cs : List Char} (h : Derives (.value v) (c :: cs)) :
    c.toNat < 0x80 := by
  generalize htext : c :: cs = text at h
  cases h with
  | null | true | false | emptyArray | array | emptyObject | object =>
    obtain rfl := (List.cons.inj htext).1
    decide
  | number hnumeral =>
    subst htext
    rcases hnumeral.head with rfl | hdigit
    · decide
    · have hnine : c.toNat ≤ '9'.toNat := (Char.isDigit_iff_toNat.1 hdigit).2
      exact Nat.lt_of_le_of_lt hnine (by decide)
  | string hquoted =>
    cases hquoted
    obtain rfl := (List.cons.inj htext).1
    decide

/-- A JSON text opens with an ASCII character. -/
theorem Denotes.opens {s : String} {v : Value} (h : Denotes s v) {c : Char} {cs : List Char}
    (hs : s.toList = c :: cs) : c.toNat < 0x80 := by
  have hspaces : ∀ b ∈ spaces, b.toNat < 0x80 := by simp [spaces]
  rw [Denotes, hs] at h
  generalize htext : c :: cs = text at h
  cases h with
  | items _ hnone => cases hnone
  | @item _ w ds u hw hvalue hu =>
    cases w with
    | cons b w => exact (List.cons.inj htext).1 ▸ hspaces b (hw b List.mem_cons_self)
    | nil =>
      cases ds with
      | cons b ds => exact (List.cons.inj htext).1 ▸ hvalue.opens
      | nil =>
        cases u with
        | cons b u => exact (List.cons.inj htext).1 ▸ hspaces b (hu b List.mem_cons_self)
        | nil => exact absurd htext (List.cons_ne_nil c cs)

/-! ### Texts of objects -/

end CommandPipeline.Json
