import CommandPipeline.Duration
import CommandPipeline.Bindings
import CommandPipeline.Json.Value

/-! Reading and writing the parts that documents and reports share. A record is read from an object,
which may have other fields too, or from the array of its fields in order. -/
namespace CommandPipeline.Json

/-! ### Reading -/

def Value.string? : Value → Option String
  | .string s => some s
  | _ => none

/-- A whole number below the bound. -/
def Value.nat? (bound : Nat) : Value → Option Nat
  | .number (.ofNat n) 0 => if n < bound then some n else none
  | _ => none

/-- All items of an array, read one by one. -/
def Value.list? {α : Type} (read : Value → Option α) : Value → Option (List α)
  | .array items => items.mapM read
  | _ => none

/-- An object whose values are all strings. -/
def Value.bindings? : Value → Option Bindings
  | .object fields =>
    (fields.mapM fun (f : String × Value) => f.2.string?.map fun s => (f.1, s)).map .ofList
  | _ => none

/-- A field of a record as it is found. -/
inductive Found where
  | present (v : Value)
  /-- The object has no such field. -/
  | missing
  /-- The array ends before the field. -/
  | beyond

/-- The items of an array as the fields of a record, unless there are too many. -/
def positional : List String → List Value → Option (List Found)
  | [], [] => some []
  | [], _ :: _ => none
  | _ :: names, [] => (positional names []).map (.beyond :: ·)
  | _ :: names, v :: items => (positional names items).map (.present v :: ·)

/-- The fields of a record, in the order of their names. -/
def record? (names : List String) : Value → Option (List Found)
  | .object fields => some (names.map fun name =>
      match Value.field? name fields with
      | some v => .present v
      | none => .missing)
  | .array items => positional names items
  | _ => none

namespace Found

def required {α : Type} (read : Value → Option α) : Found → Option α
  | .present v => read v
  | _ => none

/-- A field that has a default wherever it is absent. -/
def withDefault {α : Type} (default : α) (read : Value → Option α) : Found → Option α
  | .present v => read v
  | _ => some default

/-- A field that may be null. Only an object may leave it out. -/
def nullable {α : Type} (read : Value → Option α) : Found → Option (Option α)
  | .present .null => some none
  | .present v => (read v).map some
  | .missing => some none
  | .beyond => none

end Found

/-! ### Writing -/

def ofBindings (b : Bindings) : Value :=
  .object (b.entries.map fun e => (e.1, .string e.2))

def ofOption (s : Option String) : Value :=
  match s with
  | some s => .string s
  | none => .null

/-! ### Durations -/

def ofDuration (d : Duration) : Value :=
  .object [("secs", .ofNat d.secs), ("nanos", .ofNat d.nanos)]

/-- Seconds of 64 bits and nanoseconds of 32 bits, of which whole seconds are carried. -/
def duration (secs nanos : Found) : Option Duration := do
  let secs ← secs.required (Value.nat? UInt64.size)
  let nanos ← nanos.required (Value.nat? UInt32.size)
  Duration.ofParts? secs nanos

/-- A duration allows no other fields. -/
def duration? (v : Value) : Option Duration :=
  let known : Bool := match v with
    | .object fields => fields.all fun f => f.1 == "secs" || f.1 == "nanos"
    | _ => true
  match known, record? ["secs", "nanos"] v with
  | true, some [secs, nanos] => duration secs nanos
  | _, _ => none

end CommandPipeline.Json
