import CommandPipeline.Text.Blank

/-! Points in time, kept as the RFC 3339 text that names them. -/
namespace CommandPipeline

namespace Timestamp

/-! ### Readers

Each reader takes characters from the front of a text and gives what follows them. -/

/-- Reads between `least` and `most` digits. -/
def number? (least most : Nat) (cs : List Char) : Option (Nat × List Char) :=
  let digits := (cs.take most).takeWhile Char.isDigit
  if digits.length < least then none
  else some (digits.foldl (fun n c => n * 10 + (c.toNat - 48)) 0, cs.drop digits.length)

def skipBlanks (cs : List Char) : List Char := cs.dropWhile Text.isBlank

def literal? (c : Char) : List Char → Option (List Char)
  | d :: rest => if c = d then some rest else none
  | [] => none

/-- A field of one or two digits, after blanks. -/
def field? (cs : List Char) : Option (Nat × List Char) := number? 1 2 (skipBlanks cs)

/-- A year of up to four digits, or of any number of digits behind a sign. -/
def year? (cs : List Char) : Option (Int × List Char) :=
  match skipBlanks cs with
  | '-' :: rest => (number? 1 rest.length rest).map fun r => (-(r.1 : Int), r.2)
  | '+' :: rest => (number? 1 rest.length rest).map fun r => ((r.1 : Int), r.2)
  | rest => (number? 1 4 rest).map fun r => ((r.1 : Int), r.2)

/-- The distance from universal time in minutes: a letter, its name, or hours and minutes behind a
sign. -/
def zone? (cs : List Char) : Option (Int × List Char) :=
  match cs with
  | 'Z' :: rest => some (0, rest)
  | 'z' :: rest => some (0, rest)
  | _ =>
    if (cs.take 3).map Char.toLower = ['u', 't', 'c'] then some (0, cs.drop 3)
    else match cs with
      | sign :: rest =>
        if sign = '+' ∨ sign = '-' ∨ sign = Char.ofNat 0x2212 then do
          let (hours, rest) ← number? 2 2 rest
          let (minutes, rest) ← number? 2 2 (rest.dropWhile fun c => c == ':' || Text.isBlank c)
          let ahead : Int := hours * 60 + minutes
          if minutes < 60 ∧ ahead < 24 * 60 then some (if sign = '+' then ahead else -ahead, rest)
          else none
        else none
      | [] => none

/-! ### The calendar -/

def isLeap (y : Int) : Bool := y % 4 == 0 && (y % 100 != 0 || y % 400 == 0)

def daysIn (y : Int) (month : Nat) : Nat :=
  if month = 2 then (if isLeap y then 29 else 28)
  else if month = 4 ∨ month = 6 ∨ month = 9 ∨ month = 11 then 30
  else 31

/-- The years of the calendar. -/
def isYear (y : Int) : Bool := -262143 ≤ y && y ≤ 262142

/-- Whether the calendar has the point in time that is `minutes` after the beginning of a day. -/
def isReached (y : Int) (month day : Nat) (minutes : Int) : Bool :=
  if minutes < 0 then isYear (y - 1) || month ≠ 1 || day ≠ 1
  else if minutes < 24 * 60 then true
  else isYear (y + 1) || month ≠ 12 || day ≠ 31

/-- The fraction of a second: a point and at least one digit, or nothing. -/
def fraction? (cs : List Char) : Option (List Char) :=
  match cs with
  | '.' :: rest => if (rest.takeWhile Char.isDigit).isEmpty then none
    else some (rest.dropWhile Char.isDigit)
  | _ => some cs

/-- Reads a date, a separator, a time of day and a zone. Blanks may follow. -/
def read? (cs : List Char) : Option Unit := do
  let (y, cs) ← year? cs
  let (month, cs) ← field? (← literal? '-' (skipBlanks cs))
  let (day, cs) ← field? (← literal? '-' (skipBlanks cs))
  let cs ← match cs with
    | c :: rest => if c = 'T' ∨ c = 't' ∨ c = ' ' then some rest else none
    | [] => none
  let (hour, cs) ← field? cs
  let (minute, cs) ← field? (← literal? ':' (skipBlanks cs))
  let (second, cs) ← field? (← literal? ':' (skipBlanks cs))
  let (ahead, rest) ← zone? (skipBlanks (← fraction? cs))
  if (skipBlanks rest).isEmpty ∧ isYear y ∧ 1 ≤ month ∧ month ≤ 12 ∧ 1 ≤ day ∧
      day ≤ daysIn y month ∧ hour < 24 ∧ minute < 60 ∧ second ≤ 60 ∧
      isReached y month day (hour * 60 + minute - ahead) then some ()
  else none

def isValid (s : String) : Bool := (read? s.toList).isSome

end Timestamp

/-- A text that names a point in time. -/
structure Timestamp where
  text : String
  valid : Timestamp.isValid text = true
  deriving DecidableEq

namespace Timestamp

def parse? (s : String) : Option Timestamp :=
  if h : isValid s = true then some ⟨s, h⟩ else none

theorem parse?_text (t : Timestamp) : parse? t.text = some t := by
  simp [parse?, t.valid]

/-- The beginning of the year 1970. -/
def epoch : Timestamp := ⟨"1970-01-01T00:00:00Z", by decide +kernel⟩

/-! ### From the clock -/

/-- The year, month and day that are `days` days after the beginning of the year 1970. Years begin
in March here, so that a leap day is the last day of its year. -/
def civilDate (days : Nat) : Nat × Nat × Nat :=
  let z := days + 719468
  let dayOfEra := z % 146097
  let yearOfEra := (dayOfEra - dayOfEra / 1460 + dayOfEra / 36524 - dayOfEra / 146096) / 365
  let dayOfYear := dayOfEra - (365 * yearOfEra + yearOfEra / 4 - yearOfEra / 100)
  let m := (5 * dayOfYear + 2) / 153
  let month := if m < 10 then m + 3 else m - 9
  let year := yearOfEra + z / 146097 * 400
  (if month ≤ 2 then year + 1 else year, month, dayOfYear - (153 * m + 2) / 5 + 1)

/-- A number with zeros in front up to the width. -/
def padded (width n : Nat) : String :=
  let digits := toString n
  String.ofList (List.replicate (width - digits.length) '0') ++ digits

/-- The text of a time that is `micros` microseconds after the beginning of the year 1970. -/
def clockText (micros : Nat) : String :=
  let seconds := micros / 1000000
  let (year, month, day) := civilDate (seconds / 86400)
  padded 4 year ++ "-" ++ padded 2 month ++ "-" ++ padded 2 day ++ "T" ++
    padded 2 (seconds % 86400 / 3600) ++ ":" ++ padded 2 (seconds % 3600 / 60) ++ ":" ++
    padded 2 (seconds % 60) ++ "." ++ padded 6 (micros % 1000000) ++ "Z"

end Timestamp

end CommandPipeline
