import CommandPipeline.Number.Binary64

/-! Spans of time in whole nanoseconds, and the ways to write them. -/
namespace CommandPipeline

/-- A span of time: seconds in 64 bits, and less than a second in nanoseconds. -/
structure Duration where
  secs : Nat
  nanos : Nat
  secs_lt : secs < UInt64.size
  nanos_lt : nanos < 1000000000
  deriving DecidableEq

namespace Duration

def zero : Duration := ⟨0, 0, by decide, by decide⟩

instance : Inhabited Duration := ⟨zero⟩

/-- Carries whole seconds of the nanoseconds into the seconds, unless the seconds overflow. -/
def ofParts? (secs nanos : Nat) : Option Duration :=
  if h : secs + nanos / 1000000000 < UInt64.size then
    some ⟨secs + nanos / 1000000000, nanos % 1000000000, h, Nat.mod_lt _ (by decide)⟩
  else none

def totalNanos (d : Duration) : Nat := d.secs * 1000000000 + d.nanos

theorem ofParts?_parts (d : Duration) : ofParts? d.secs d.nanos = some d := by
  have hq : d.nanos / 1000000000 = 0 := Nat.div_eq_of_lt d.nanos_lt
  have hr : d.nanos % 1000000000 = d.nanos := Nat.mod_eq_of_lt d.nanos_lt
  unfold ofParts?
  simp only [hq, hr, Nat.add_zero, d.secs_lt, ↓reduceDIte]

theorem totalNanos_ofParts? {secs nanos : Nat} {d : Duration} (h : ofParts? secs nanos = some d) :
    d.totalNanos = secs * 1000000000 + nanos := by
  unfold ofParts? at h
  split at h
  · injection h with h
    subst h
    simp only [totalNanos]
    have := Nat.div_add_mod nanos 1000000000
    omega
  · contradiction

/-! ### For people -/

/-- The seconds as a floating-point number: the nanoseconds are divided and then added. -/
def asSeconds (d : Duration) : Rat :=
  Number.round53 (d.secs + Number.nearest53 d.nanos 1000000000)

def asMillis (d : Duration) : Rat :=
  Number.round53 (d.asSeconds * 1000)

/-- Milliseconds below a second, seconds below a minute, and then whole seconds in minutes and
hours. -/
def render (d : Duration) : String :=
  if d.secs = 0 then Number.twoPlaces (Number.hundredths d.asMillis) ++ "ms"
  else if d.secs < 60 then Number.twoPlaces (Number.hundredths d.asSeconds) ++ "s"
  else if d.secs < 3600 then toString (d.secs / 60) ++ "m " ++ toString (d.secs % 60) ++ "s"
  else toString (d.secs / 3600) ++ "h " ++ toString (d.secs % 3600 / 60) ++ "m " ++
    toString (d.secs % 60) ++ "s"

/-! ### For logs -/

/-- A whole part and `places` decimal places, without the zeros at the end. -/
def trimmedDecimal (whole fraction places : Nat) : String :=
  let digits := toString fraction
  let all := List.replicate (places - digits.length) '0' ++ digits.toList
  let kept := (all.reverse.dropWhile (· == '0')).reverse
  if kept.isEmpty then toString whole else toString whole ++ "." ++ String.ofList kept

/-- Every digit, in the largest unit that leaves a whole part. -/
def exact (d : Duration) : String :=
  if 0 < d.secs then trimmedDecimal d.secs d.nanos 9 ++ "s"
  else if 1000000 ≤ d.nanos then trimmedDecimal (d.nanos / 1000000) (d.nanos % 1000000) 6 ++ "ms"
  else if 1000 ≤ d.nanos then trimmedDecimal (d.nanos / 1000) (d.nanos % 1000) 3 ++ "µs"
  else toString d.nanos ++ "ns"

end Duration

end CommandPipeline
