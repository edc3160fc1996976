import CommandPipeline.Display.Style
import CommandPipeline.Run.Event

/-! The lines that documents, events and reports are shown as. -/
namespace CommandPipeline.Display

open Run (Event Entry Report)

/-! ### Events -/

/-- Steps are numbered from one. -/
def stepNumber (index : Nat) : String := toString (index + 1)

def eventLine (screen : Screen) : Event → String
  | .pipelineStarted id name =>
    screen.symbol .rocket ++ " Executing pipeline " ++ screen.styled .bold name ++ " (" ++
      screen.styled .dim id.short ++ ")"
  | .stepStarted index kind =>
    screen.symbol .hourglass ++ " step " ++ stepNumber index ++ " (" ++
      screen.styled .dim kind.title ++ ")"
  | .stepCompleted index command elapsed =>
    screen.symbol .check ++ " step " ++ stepNumber index ++ " [" ++ screen.styled .green command ++
      "] " ++ screen.styled .dim elapsed.render
  | .stepFailed index command error =>
    screen.symbol .cross ++ " step " ++ stepNumber index ++ " [" ++ screen.styled .red command ++
      "]: " ++ screen.styled .dim error
  | .pipelineCompleted _ success totalTime =>
    screen.symbol .info ++ " Pipeline " ++
      (if success then screen.styled .green "completed" else screen.styled .red "failed") ++ " in " ++
      totalTime.render

/-! ### Documents -/

/-- An input with its default, if it has one. -/
def inputText (i : Input) : String :=
  if i.default = "" then " <" ++ i.name ++ ">"
  else " <" ++ i.name ++ "=\"" ++ i.default ++ "\">"

/-- The arguments that a document wants. -/
def argumentLine (d : Document) : String :=
  "You must provide " ++ toString d.inputs.length ++ " argument(s):" ++
    String.join (d.inputs.map inputText)

def summaryLines (screen : Screen) (d : Document) : List String :=
  ["  Name: " ++ screen.styled .bold d.name,
   "  Inputs: " ++ screen.styled .cyan (toString d.inputs.length),
   "  Declarations: " ++ screen.styled .cyan (toString d.declarations.size),
   "  Steps: " ++ screen.styled .cyan (toString d.steps.length),
   "  Output: " ++ screen.styled .cyan (d.output.getD "(none)")]

/-! ### Reports -/

def totalTimeLine (r : Report) : String := "Execution time: " ++ r.totalTime.render

def timingLine (e : Entry) : String :=
  "Command [ " ++ e.command ++ " ] - Time [ " ++ e.elapsed.render ++ " ]"

def timingLines (r : Report) : List String := r.entries.map timingLine

/-- The line about the step that failed. -/
def failedStepLine (index : Nat) (e : Entry) : String :=
  "  step " ++ stepNumber index ++ " [" ++ e.command ++ "]: " ++ e.error.getD ""

end CommandPipeline.Display
