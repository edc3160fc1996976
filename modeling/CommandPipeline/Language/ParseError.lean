import CommandPipeline.Platform.Files

/-! Why a text is not a pipeline. -/
namespace CommandPipeline.Language

/-- The sections of a pipeline, in their order. -/
inductive Section where
  | definition
  | declaration
  | pipeline
  | ending
  deriving DecidableEq, Repr

namespace Section

def title : Section → String
  | .definition => "definition"
  | .declaration => "declaration"
  | .pipeline => "pipeline"
  | .ending => "end"

def rank : Section → Nat
  | .definition => 0
  | .declaration => 1
  | .pipeline => 2
  | .ending => 3

end Section

inductive ParseError where
  /-- The file cannot be read. -/
  | unreadable (path : String) (cause : Platform.FileError)
  /-- A line has no form of its section. -/
  | malformed (place : Section) (number : Nat) (line : String)
  /-- The text has no significant line. -/
  | empty
  /-- The text stops before its declarations end. -/
  | missingBegin
  /-- The text stops before its steps end. -/
  | missingEnd
  deriving DecidableEq, Repr

def ParseError.message : ParseError → String
  | .unreadable path cause => "failed to read pipeline file " ++ path ++ ": " ++ cause.message
  | .malformed place number line =>
    "line " ++ toString number ++ ": syntax error in " ++ place.title ++ " section: " ++ line
  | .empty => "pipeline is empty"
  | .missingBegin => "missing 'begin' after declarations"
  | .missingEnd => "missing 'end' after pipeline steps"

end CommandPipeline.Language
