import CommandPipeline.Json.Codec
import CommandPipeline.Run.Report

/-! Reports of runs as JSON. -/
namespace CommandPipeline.Json

open Run (Entry Report)

/-! ### Writing -/

def ofEntry (e : Entry) : Value :=
  .object [("command", .string e.command), ("error", ofOption e.error),
    ("elapsed", ofDuration e.elapsed)]

def ofReport (r : Report) : Value :=
  .object [("execution_id", .string r.id.render), ("started_at", .string r.startedAt.text),
    ("variables", ofBindings r.vars), ("exec_steps", .array (r.entries.map ofEntry)),
    ("total_time", ofDuration r.totalTime), ("output", .string r.output)]

/-! ### Reading -/

def entry? (v : Value) : Option Entry := do
  match ← record? ["command", "error", "elapsed"] v with
  | [command, error, elapsed] =>
    some {
      command := ← command.required Value.string?
      error := ← error.nullable Value.string?
      elapsed := ← elapsed.required duration? }
  | _ => none

def report? (v : Value) : Option Report := do
  match ← record? ["execution_id", "started_at", "variables", "exec_steps", "total_time", "output"] v with
  | [id, startedAt, vars, entries, totalTime, output] =>
    some {
      id := ← Uuid.parse? (← id.required Value.string?)
      startedAt := ← Timestamp.parse? (← startedAt.required Value.string?)
      vars := ← vars.required Value.bindings?
      entries := ← entries.required (Value.list? entry?)
      totalTime := ← totalTime.required duration?
      output := ← output.required Value.string? }
  | _ => none

end CommandPipeline.Json
