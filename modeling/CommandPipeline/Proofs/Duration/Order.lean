import CommandPipeline.Proofs.Duration.Units
import Mathlib

/-! The text of a duration, read back as seconds. Within a unit the rounding keeps the order, and a number
that is rounded up to one of the next unit is not greater than what is written from there on, so that of two
durations the longer one is never written as the lesser number. -/
namespace CommandPipeline

/-! ### Amounts in seconds -/

/-- How many seconds one of the unit is. -/
def TimeUnit.seconds : TimeUnit → Rat
  | ms => 1 / 1000
  | s => 1
  | m => 60
  | h => 3600

def Amount.seconds (a : Amount) : Rat := a.number * a.unit.seconds

/-- `ReadsAs text q`: the text shows amounts of time that make up `q` seconds. -/
def ReadsAs (text : String) (q : Rat) : Prop :=
  ∃ as, Shows as text.toList ∧ q = (as.map Amount.seconds).sum

namespace Duration

variable {d e : Duration}

/-- The seconds that are written for a duration. -/
def shown (d : Duration) : Rat := (d.amounts.map Amount.seconds).sum

theorem readsAs_render_iff (d : Duration) (q : Rat) : ReadsAs d.render q ↔ q = d.shown := by
  constructor
  · rintro ⟨as, has, rfl⟩
    rw [has.unique d.shows_amounts, shown]
  · exact fun h => ⟨d.amounts, d.shows_amounts, h⟩

/-! ### In each unit -/

theorem shown_of_secs_eq_zero (h : d.secs = 0) : d.shown = Number.hundredths d.asMillis / 100000 := by
  simp only [shown, amounts, h, if_true, List.map_cons, List.map_nil, List.sum_cons, List.sum_nil,
    Amount.seconds, TimeUnit.seconds]
  ring

theorem shown_of_lt_minute (hpos : d.secs ≠ 0) (h : d.secs < 60) :
    d.shown = Number.hundredths d.asSeconds / 100 := by
  simp only [shown, amounts, hpos, h, if_true, if_false, List.map_cons, List.map_nil, List.sum_cons,
    List.sum_nil, Amount.seconds, TimeUnit.seconds]
  ring

/-- From a minute on nothing is rounded. -/
theorem shown_of_minute_le (h : 60 ≤ d.secs) : d.shown = d.secs := by
  have hzero : d.secs ≠ 0 := by omega
  simp only [shown, amounts, hzero, h.not_gt, if_false]
  split_ifs with hhour
  · have hparts : d.secs / 60 * 60 + d.secs % 60 = d.secs := Nat.div_add_mod' _ _
    simp only [List.map_cons, List.map_nil, List.sum_cons, List.sum_nil, Amount.seconds, TimeUnit.seconds,
      mul_one, add_zero]
    exact_mod_cast hparts
  · have hparts : d.secs / 3600 * 3600 + (d.secs % 3600 / 60 * 60 + d.secs % 60) = d.secs := by omega
    simp only [List.map_cons, List.map_nil, List.sum_cons, List.sum_nil, Amount.seconds, TimeUnit.seconds,
      mul_one, add_zero]
    exact_mod_cast hparts

/-! ### Where the units meet -/

/-- What is written in milliseconds is a second at most. -/
theorem shown_le_one (h : d.secs = 0) : d.shown ≤ 1 := by
  have hnanos := d.nanos_lt
  have hle : Number.hundredths d.asMillis ≤ 100000 :=
    hundredths_asMillis_le (by simp only [totalNanos]; omega)
  rw [shown_of_secs_eq_zero h, div_le_one (by norm_num)]
  exact_mod_cast hle

/-- What is written in seconds is a second at least. -/
theorem one_le_shown (hpos : d.secs ≠ 0) (h : d.secs < 60) : 1 ≤ d.shown := by
  have hone : Number.hundredths (asSeconds ⟨1, 0, by decide, by decide⟩) = 100 := by decide +kernel
  have hle : 100 ≤ Number.hundredths d.asSeconds :=
    hone.symm.trans_le (hundredths_asSeconds_mono (by simp only [totalNanos]; omega))
  rw [shown_of_lt_minute hpos h, one_le_div (by norm_num)]
  exact_mod_cast hle

/-- What is written for less than a minute is a minute at most. -/
theorem shown_le_sixty (h : d.secs < 60) : d.shown ≤ 60 := by
  by_cases hzero : d.secs = 0
  · exact (shown_le_one hzero).trans (by norm_num)
  · have hnanos := d.nanos_lt
    have hle : Number.hundredths d.asSeconds ≤ 6000 :=
      hundredths_asSeconds_le (by simp only [totalNanos]; omega)
    rw [shown_of_lt_minute hzero h, div_le_iff₀ (by norm_num)]
    exact_mod_cast hle

/-! ### All durations -/

theorem shown_mono (h : d.totalNanos ≤ e.totalNanos) : d.shown ≤ e.shown := by
  have hsecs : d.secs ≤ e.secs := by
    have hnanos := e.nanos_lt
    simp only [totalNanos] at h
    omega
  by_cases heMinute : 60 ≤ e.secs
  · rw [shown_of_minute_le heMinute]
    by_cases hdMinute : 60 ≤ d.secs
    · rw [shown_of_minute_le hdMinute]
      exact_mod_cast hsecs
    · exact (shown_le_sixty (not_le.1 hdMinute)).trans (by exact_mod_cast heMinute)
  · rw [not_le] at heMinute
    by_cases heZero : e.secs = 0
    · have hdZero : d.secs = 0 := by omega
      have hmono := hundredths_asMillis_mono h
      rw [shown_of_secs_eq_zero hdZero, shown_of_secs_eq_zero heZero]
      gcongr
    · by_cases hdZero : d.secs = 0
      · exact (shown_le_one hdZero).trans (one_le_shown heZero heMinute)
      · have hmono := hundredths_asSeconds_mono h
        rw [shown_of_lt_minute hdZero (by omega), shown_of_lt_minute heZero heMinute]
        gcongr

/-- The text of every duration is read back as one number of seconds. That of a longer duration is never the
lesser one, and from a minute on it is the number of whole seconds. -/
theorem render_keeps_order :
    ∃ seconds : Duration → Rat, (∀ d q, ReadsAs d.render q ↔ q = seconds d) ∧
      (∀ d e, d.totalNanos ≤ e.totalNanos → seconds d ≤ seconds e) ∧
      ∀ d, 60 ≤ d.secs → seconds d = d.secs :=
  ⟨shown, readsAs_render_iff, fun _ _ => shown_mono, fun _ => shown_of_minute_le⟩

end Duration

end CommandPipeline
