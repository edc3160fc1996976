import CommandPipeline.Language.Machine

/-! Reading a pipeline from a text or from a file. -/
namespace CommandPipeline.Language

/-- The document that significant lines denote. -/
def parseLines (tokens : TokenSource) (lines : List Line) : Log.Logged (Except ParseError Document) :=
  Machine.run tokens { rest := lines }

/-- The document that a text denotes, with the log of reading it. -/
def parseLogged (tokens : TokenSource) (source : String) : Log.Logged (Except ParseError Document) :=
  let lines := significantLines source
  let r := parseLines tokens lines
  ⟨⟨.debug, Log.parser, "parsing " ++ toString lines.length ++ " significant lines"⟩ :: r.records,
    r.value⟩

def parse (tokens : TokenSource) (source : String) : Except ParseError Document :=
  (parseLogged tokens source).value

/-- The document in a file. A file that cannot be read is never parsed. -/
def parseFile (tokens : TokenSource) (files : Platform.Files) (here : Platform.Path) (path : String) :
    Log.Logged (Except ParseError Document) :=
  match Platform.readText files here path with
  | .error cause => ⟨[], .error (.unreadable path cause)⟩
  | .ok source => parseLogged tokens source

end CommandPipeline.Language
