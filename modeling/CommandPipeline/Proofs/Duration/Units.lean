import CommandPipeline.Duration
import CommandPipeline.Proofs.Json.Text
import CommandPipeline.Proofs.Number.Rounding
import CommandPipeline.Proofs.Text.Cut

/-! What people read in the text of a duration: amounts of units, the largest unit first. The unit is chosen
before the number is rounded, so that a number may be rounded up to a whole one of the next unit, and the
durations for which it is are known exactly. -/
namespace CommandPipeline

/-! ### Amounts of time -/

inductive TimeUnit where
  | ms | s | m | h
  deriving DecidableEq

namespace TimeUnit

def symbol : TimeUnit → List Char
  | ms => ['m', 's']
  | s => ['s']
  | m => ['m']
  | h => ['h']

/-- How many of the unit are one of the next. -/
def limit? : TimeUnit → Option Nat
  | ms => some 1000
  | s => some 60
  | m => some 60
  | h => none

theorem symbol_injective : Function.Injective symbol := by
  intro u v h
  cases u <;> cases v <;> first | rfl | cases h

theorem isAlpha_of_mem_symbol (u : TimeUnit) : ∀ c ∈ u.symbol, c.isAlpha = true := by
  cases u <;> exact List.all_eq_true.1 rfl

theorem symbol_ne_nil (u : TimeUnit) : u.symbol ≠ [] := by cases u <;> decide

end TimeUnit

/-- So many of a unit. -/
structure Amount where
  number : Rat
  unit : TimeUnit

/-- The amount stays below one of the next unit. -/
def Amount.Within (a : Amount) : Prop := ∀ n ∈ a.unit.limit?, a.number < n

theorem Amount.within_iff {a : Amount} {n : Nat} (h : a.unit.limit? = some n) :
    a.Within ↔ a.number < n := by
  simp only [Amount.Within, h, Option.mem_some, forall_eq']

theorem Amount.within_of_limit?_eq_none {a : Amount} (h : a.unit.limit? = none) : a.Within := by
  rw [Amount.Within, h]
  exact nofun

/-! ### The text of amounts -/

/-- `Decimal q cs`: the text is a number without a sign or an exponent, which is equal to `q`. -/
inductive Decimal : Rat → List Char → Prop where
  | mk {n : Nat} {f : Rat} {ns fs : List Char} : Json.Whole n ns → Json.Fraction f fs →
      Decimal (n + f) (ns ++ fs)

/-- `Shows as cs`: the text is the amounts, with a blank between two of them. -/
inductive Shows : List Amount → List Char → Prop where
  | last {q : Rat} {cs : List Char} (u : TimeUnit) : Decimal q cs → Shows [⟨q, u⟩] (cs ++ u.symbol)
  | cons {q : Rat} {as : List Amount} {cs ds : List Char} (u : TimeUnit) : Decimal q cs → Shows as ds →
      Shows (⟨q, u⟩ :: as) (cs ++ (u.symbol ++ ' ' :: ds))

theorem decimal_toDigits (n : Nat) : Decimal n (Nat.toDigits 10 n) := by
  have := Decimal.mk (Json.whole_toDigits n) .absent
  rwa [add_zero, List.append_nil] at this

theorem decimal_twoPlaces (n : Nat) : Decimal (n / 100) (Number.twoPlaces n).toList := by
  have hplaces : ∀ k < 100, List.replicate (2 - (Nat.toDigits 10 k).length) '0' ++ Nat.toDigits 10 k =
      Nat.toDigits 10 (k / 10) ++ Nat.toDigits 10 (k % 10) := by decide
  have hlt : n % 100 < 100 := Nat.mod_lt n (by decide)
  have hfraction := Json.fraction_pad two_ne_zero hlt
  rw [hplaces _ hlt, Nat.mod_mod_of_dvd n (by decide : 10 ∣ 100)] at hfraction
  have hvalue : ((n / 100 : Nat) : Rat) + (n % 100 : Nat) / 10 ^ 2 = n / 100 := by
    have : (n : Rat) = (n / 100 : Nat) * 100 + (n % 100 : Nat) := by
      exact_mod_cast (Nat.div_add_mod' n 100).symm
    rw [this]
    ring
  have := Decimal.mk (Json.whole_toDigits (n / 100)) hfraction
  rw [hvalue] at this
  simp only [Number.twoPlaces, String.toList_append, Nat.toString_eq_ofList_toDigits, String.toList_ofList,
    List.append_assoc]
  exact this

/-! ### A text shows amounts in one way only -/

namespace Decimal

variable {q q' : Rat} {cs : List Char}

theorem unique (h : Decimal q cs) (h' : Decimal q' cs) : q = q' := by
  generalize htext : cs = text at h'
  obtain ⟨hn, hf⟩ := h
  obtain ⟨hn', hf'⟩ := h'
  obtain ⟨hns, hfs⟩ := Text.append_unique htext (Json.digits_of_whole hn).isDigit
    (Json.digits_of_whole hn').isDigit hf.isDigit_head? hf'.isDigit_head?
  subst hns hfs
  rw [hf.unique hf', ← (Json.digits_of_whole hn).value, ← (Json.digits_of_whole hn').value]

theorem isAlpha (h : Decimal q cs) : ∀ c ∈ cs, c.isAlpha = false := by
  have hdigit : ∀ c : Char, c.isDigit = true → c.isAlpha = false := by
    intro c hc
    simp only [Char.isDigit, Char.isAlpha, Char.isUpper, Char.isLower, Char.reduceVal, ge_iff_le,
      UInt32.le_iff_toNat_le, UInt32.reduceToNat, Char.toNat_val, Bool.and_eq_true, decide_eq_true_eq,
      Bool.decide_and, Bool.or_eq_false_iff, Bool.and_eq_false_imp, decide_eq_false_iff_not] at hc ⊢
    omega
  obtain ⟨hn, hf⟩ := h
  refine List.forall_mem_append.2 ⟨fun c hc => hdigit c ((Json.digits_of_whole hn).isDigit c hc), ?_⟩
  cases hf with
  | absent => exact nofun
  | digits hdigits => exact List.forall_mem_cons.2 ⟨rfl, fun c hc => hdigit c (hdigits.isDigit c hc)⟩

end Decimal

/-- The letters of the unit end the first amount, whatever is behind them. -/
theorem first_amount_unique {q q' : Rat} {u u' : TimeUnit} {cs cs' rest rest' : List Char}
    (hq : Decimal q cs) (hq' : Decimal q' cs') (hrest : ∀ c ∈ rest.head?, c.isAlpha = false)
    (hrest' : ∀ c ∈ rest'.head?, c.isAlpha = false)
    (h : cs ++ (u.symbol ++ rest) = cs' ++ (u'.symbol ++ rest')) : q = q' ∧ u = u' ∧ rest = rest' := by
  have hhead : ∀ (v : TimeUnit) (ds : List Char), ∀ c ∈ (v.symbol ++ ds).head?, (!c.isAlpha) = false := by
    intro v ds c hc
    rw [List.head?_append_of_ne_nil _ v.symbol_ne_nil] at hc
    rw [v.isAlpha_of_mem_symbol c (List.mem_of_mem_head? hc), Bool.not_true]
  have hnumeric : ∀ {r ds}, Decimal r ds → ∀ c ∈ ds, (!c.isAlpha) = true := fun hr c hc => by
    rw [hr.isAlpha c hc, Bool.not_false]
  obtain ⟨rfl, hbehind⟩ := Text.append_unique h (hnumeric hq) (hnumeric hq') (hhead u rest) (hhead u' rest')
  obtain ⟨hu, rfl⟩ := Text.append_unique hbehind u.isAlpha_of_mem_symbol u'.isAlpha_of_mem_symbol hrest hrest'
  exact ⟨hq.unique hq', TimeUnit.symbol_injective hu, rfl⟩

theorem Shows.unique {as bs : List Amount} {cs : List Char} (h : Shows as cs) (h' : Shows bs cs) :
    as = bs := by
  have hnil : ∀ c ∈ ([] : List Char).head?, c.isAlpha = false := nofun
  have hblank : ∀ {ds : List Char}, ∀ c ∈ (' ' :: ds).head?, c.isAlpha = false := by rintro _ c ⟨⟩; rfl
  induction h generalizing bs with
  | last u hq =>
    generalize htext : _ ++ u.symbol = text at h'
    rw [← List.append_nil u.symbol] at htext
    cases h' with
    | last u' hq' =>
      rw [← List.append_nil u'.symbol] at htext
      obtain ⟨rfl, rfl, -⟩ := first_amount_unique hq hq' hnil hnil htext
      rfl
    | cons u' hq' _ => exact nomatch (first_amount_unique hq hq' hnil hblank htext).2.2
  | cons u hq hbs ih =>
    generalize htext : _ ++ (u.symbol ++ _) = text at h'
    cases h' with
    | last u' hq' =>
      rw [← List.append_nil u'.symbol] at htext
      exact nomatch (first_amount_unique hq hq' hblank hnil htext).2.2
    | cons u' hq' hbs' =>
      obtain ⟨rfl, rfl, hrest⟩ := first_amount_unique hq hq' hblank hblank htext
      rw [ih ((List.cons.inj hrest).2 ▸ hbs')]

/-! ### Floating-point seconds and milliseconds -/

namespace Duration

variable {d e : Duration}

/-- A fraction of a second does not pass the second, so that the seconds decide. -/
theorem asSeconds_mono (h : d.totalNanos ≤ e.totalNanos) : d.asSeconds ≤ e.asSeconds := by
  have hnonneg := Number.nearest53_nonneg d.nanos 1000000000
  refine Number.round53_mono (by positivity) ?_
  simp only [totalNanos] at h
  have hd := d.nanos_lt
  have he := e.nanos_lt
  rcases (by omega : d.secs ≤ e.secs).eq_or_lt with heq | hlt
  · rw [heq]
    gcongr
    exact Number.nearest53_mono 1000000000 (by decide) (by omega)
  · have hone : Number.nearest53 1000000000 1000000000 = 1 := by decide +kernel
    have hfraction := Number.nearest53_mono 1000000000 (by decide) hd.le
    have hnext : (d.secs : Rat) + 1 ≤ e.secs := by exact_mod_cast hlt
    have hrest := Number.nearest53_nonneg e.nanos 1000000000
    linarith

theorem asSeconds_nonneg (d : Duration) : 0 ≤ d.asSeconds := Number.round53_nonneg _

theorem asMillis_nonneg (d : Duration) : 0 ≤ d.asMillis := Number.round53_nonneg _

theorem asMillis_mono (h : d.totalNanos ≤ e.totalNanos) : d.asMillis ≤ e.asMillis := by
  have hnonneg := d.asSeconds_nonneg
  have hseconds := asSeconds_mono h
  exact Number.round53_mono (by positivity) (by gcongr)

theorem hundredths_asSeconds_mono (h : d.totalNanos ≤ e.totalNanos) :
    Number.hundredths d.asSeconds ≤ Number.hundredths e.asSeconds :=
  Number.hundredths_mono d.asSeconds_nonneg (asSeconds_mono h)

theorem hundredths_asMillis_mono (h : d.totalNanos ≤ e.totalNanos) :
    Number.hundredths d.asMillis ≤ Number.hundredths e.asMillis :=
  Number.hundredths_mono d.asMillis_nonneg (asMillis_mono h)

/-- What does not fall as time goes on passes a bound in one nanosecond. -/
theorem lt_iff_of_mono {f : Duration → Nat} (hf : ∀ {d e}, d.totalNanos ≤ e.totalNanos → f d ≤ f e)
    {n t : Nat} (before after : Duration) (htbefore : before.totalNanos + 1 = t)
    (htafter : after.totalNanos = t) (hbefore : f before < n) (hafter : n ≤ f after) (d : Duration) :
    f d < n ↔ d.totalNanos < t := by
  constructor
  · intro h
    by_contra hle
    exact (hafter.trans (hf (by omega))).not_gt h
  · intro h
    exact (hf (by omega)).trans_lt hbefore

theorem hundredths_asMillis_lt_iff (d : Duration) :
    Number.hundredths d.asMillis < 100000 ↔ d.totalNanos < 999995000 :=
  lt_iff_of_mono hundredths_asMillis_mono ⟨0, 999994999, by decide, by decide⟩
    ⟨0, 999995000, by decide, by decide⟩ (by decide) (by decide) (by decide +kernel) (by decide +kernel) d

theorem hundredths_asSeconds_lt_iff (d : Duration) :
    Number.hundredths d.asSeconds < 6000 ↔ d.totalNanos < 59995000001 :=
  lt_iff_of_mono hundredths_asSeconds_mono ⟨59, 995000000, by decide, by decide⟩
    ⟨59, 995000001, by decide, by decide⟩ (by decide) (by decide) (by decide +kernel) (by decide +kernel) d

theorem hundredths_asMillis_le (h : d.totalNanos < 1000000000) : Number.hundredths d.asMillis ≤ 100000 :=
  calc Number.hundredths d.asMillis
      ≤ Number.hundredths (asMillis ⟨1, 0, by decide, by decide⟩) :=
        hundredths_asMillis_mono (by simp only [totalNanos] at h ⊢; omega)
    _ = 100000 := by decide +kernel

theorem hundredths_asSeconds_le (h : d.totalNanos < 60000000000) : Number.hundredths d.asSeconds ≤ 6000 :=
  calc Number.hundredths d.asSeconds
      ≤ Number.hundredths (asSeconds ⟨60, 0, by decide, by decide⟩) :=
        hundredths_asSeconds_mono (by simp only [totalNanos] at h ⊢; omega)
    _ = 6000 := by decide +kernel

/-! ### The amounts of a duration -/

/-- The amounts that are written for a duration. -/
def amounts (d : Duration) : List Amount :=
  if d.secs = 0 then [⟨Number.hundredths d.asMillis / 100, .ms⟩]
  else if d.secs < 60 then [⟨Number.hundredths d.asSeconds / 100, .s⟩]
  else if d.secs < 3600 then [⟨(d.secs / 60 : Nat), .m⟩, ⟨(d.secs % 60 : Nat), .s⟩]
  else [⟨(d.secs / 3600 : Nat), .h⟩, ⟨(d.secs % 3600 / 60 : Nat), .m⟩, ⟨(d.secs % 60 : Nat), .s⟩]

theorem shows_amounts (d : Duration) : Shows d.amounts d.render.toList := by
  have hseconds := Shows.last .s (decimal_toDigits (d.secs % 60))
  unfold amounts render
  split_ifs
  · rw [String.toList_append]
    exact .last .ms (decimal_twoPlaces _)
  · rw [String.toList_append]
    exact .last .s (decimal_twoPlaces _)
  · simp only [String.toList_append, Nat.toString_eq_ofList_toDigits, String.toList_ofList, List.append_assoc]
    exact .cons .m (decimal_toDigits _) hseconds
  · simp only [String.toList_append, Nat.toString_eq_ofList_toDigits, String.toList_ofList, List.append_assoc]
    exact .cons .h (decimal_toDigits _) (.cons .m (decimal_toDigits _) hseconds)

/-- The duration is so close below a second, or below a minute, that its hundredths are rounded up to that.
The bounds are not alike because 59.995 as a binary number is a little less than that, and 999.995 a little
more. -/
def RoundsUp (d : Duration) : Prop :=
  d.secs = 0 ∧ 999995000 ≤ d.nanos ∨ d.secs = 59 ∧ 995000000 < d.nanos

theorem within_amounts_iff (d : Duration) : (∀ a ∈ d.amounts, a.Within) ↔ ¬ d.RoundsUp := by
  have hbelow : ∀ n k : Nat, (n : Rat) / 100 < k ↔ n < k * 100 := by
    intro n k
    rw [div_lt_iff₀ (by norm_num)]
    exact_mod_cast Iff.rfl
  have hmillis := d.hundredths_asMillis_lt_iff
  have hseconds := d.hundredths_asSeconds_lt_iff
  have hnanos := d.nanos_lt
  simp only [totalNanos] at hmillis hseconds
  unfold amounts RoundsUp
  split_ifs with hzero hminute hhour
  · rw [List.forall_mem_singleton, Amount.within_iff rfl, hbelow]
    omega
  · rw [List.forall_mem_singleton, Amount.within_iff rfl, hbelow]
    omega
  · rw [List.forall_mem_cons, List.forall_mem_singleton, Amount.within_iff rfl, Amount.within_iff rfl,
      Nat.cast_lt, Nat.cast_lt]
    omega
  · rw [List.forall_mem_cons, List.forall_mem_cons, List.forall_mem_singleton,
      iff_true_intro (Amount.within_of_limit?_eq_none rfl), true_and, Amount.within_iff rfl,
      Amount.within_iff rfl, Nat.cast_lt, Nat.cast_lt]
    omega

theorem render_of_roundsUp (h : d.RoundsUp) :
    d.render = if d.secs = 0 then "1000.00ms" else "60.00s" := by
  have hnanos := d.nanos_lt
  rcases h with ⟨hsecs, hlate⟩ | ⟨hsecs, hlate⟩
  · have hmillis := d.hundredths_asMillis_lt_iff
    have hle : Number.hundredths d.asMillis ≤ 100000 :=
      hundredths_asMillis_le (by simp only [totalNanos]; omega)
    simp only [totalNanos] at hmillis
    have heq : Number.hundredths d.asMillis = 100000 := by omega
    rw [render, if_pos hsecs, if_pos hsecs, heq]
    rfl
  · have hseconds := d.hundredths_asSeconds_lt_iff
    have hle : Number.hundredths d.asSeconds ≤ 6000 :=
      hundredths_asSeconds_le (by simp only [totalNanos]; omega)
    simp only [totalNanos] at hseconds
    have heq : Number.hundredths d.asSeconds = 6000 := by omega
    rw [render, if_neg (by omega), if_pos (by omega), if_neg (by omega), heq]
    rfl

/-- The text of a duration is read in one way, as milliseconds, as seconds, or as whole minutes and seconds
with or without hours. Each amount stays below one of the next unit exactly if the duration is not rounded up
to a whole one. -/
theorem render_within_units_iff (d : Duration) :
    ∃ as, (∀ bs, Shows bs d.render.toList ↔ bs = as) ∧
      as.map Amount.unit ∈ [[.ms], [.s], [.m, .s], [.h, .m, .s]] ∧
      ((∀ a ∈ as, a.Within) ↔ ¬ d.RoundsUp) ∧
      (d.RoundsUp → d.render = if d.secs = 0 then "1000.00ms" else "60.00s") := by
  refine ⟨d.amounts, fun bs => ⟨fun h => h.unique d.shows_amounts, fun h => h ▸ d.shows_amounts⟩, ?_,
    d.within_amounts_iff, render_of_roundsUp⟩
  unfold amounts
  split_ifs <;> simp

theorem render_passes_units :
    render ⟨0, 999999999, by decide, by decide⟩ = "1000.00ms" ∧
      render ⟨59, 999999999, by decide, by decide⟩ = "60.00s" ∧
      ¬ ∀ d : Duration, ∀ as, Shows as d.render.toList → ∀ a ∈ as, a.Within := by
  have hmillis : RoundsUp ⟨0, 999999999, by decide, by decide⟩ := .inl ⟨rfl, by decide⟩
  have hseconds : RoundsUp ⟨59, 999999999, by decide, by decide⟩ := .inr ⟨rfl, by decide⟩
  refine ⟨render_of_roundsUp hmillis, render_of_roundsUp hseconds, fun h => ?_⟩
  exact (within_amounts_iff _).1 (h _ _ (shows_amounts _)) hmillis

end Duration

end CommandPipeline
