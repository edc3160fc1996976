import CommandPipeline.Command.Runner
import CommandPipeline.Run.Report

/-! What can be seen of a run while it goes on: events, calls of the runner and log records, in one
sequence. -/
namespace CommandPipeline.Run

inductive Event where
  | pipelineStarted (id : Uuid) (name : String)
  | stepStarted (index : Nat) (kind : StepKind)
  | stepCompleted (index : Nat) (command : String) (elapsed : Duration)
  | stepFailed (index : Nat) (command error : String)
  | pipelineCompleted (id : Uuid) (success : Bool) (totalTime : Duration)
  deriving DecidableEq

inductive Signal where
  | event (e : Event)
  /-- The runner is given a command. -/
  | call (mode : Command.Mode) (command : String)
  | record (r : Log.Record)
  deriving DecidableEq

namespace Signal

def event? : Signal → Option Event
  | .event e => some e
  | _ => none

def call? : Signal → Option (Command.Mode × String)
  | .call mode command => some (mode, command)
  | _ => none

def record? : Signal → Option Log.Record
  | .record r => some r
  | _ => none

end Signal

def events (signals : List Signal) : List Event := signals.filterMap Signal.event?

def calls (signals : List Signal) : List (Command.Mode × String) := signals.filterMap Signal.call?

def records (signals : List Signal) : List Log.Record := signals.filterMap Signal.record?

/-- The state of a runner that hears of the records among some signals. -/
def told {σ : Type} (runner : Command.Runner σ) (signals : List Signal) (s : σ) : σ :=
  runner.hearAll (records signals) s

/-- What the handlers make of the events. Each event goes to every handler before the next event. -/
def deliver {α : Type} (handlers : List (Event → α)) (signals : List Signal) : List α :=
  (events signals).flatMap fun e => handlers.map fun handler => handler e

theorem events_append (s t : List Signal) : events (s ++ t) = events s ++ events t :=
  List.filterMap_append

theorem calls_append (s t : List Signal) : calls (s ++ t) = calls s ++ calls t :=
  List.filterMap_append

theorem records_append (s t : List Signal) : records (s ++ t) = records s ++ records t :=
  List.filterMap_append

end CommandPipeline.Run
