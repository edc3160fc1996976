/-! Styles and symbols of the screen. -/
namespace CommandPipeline.Display

/-- What a screen can show. -/
structure Screen where
  emoji : Bool := true
  colour : Bool := false

inductive Style where
  | bold
  | dim
  | red
  | green
  | yellow
  | blue
  | magenta
  | cyan
  deriving DecidableEq, Repr

/-- The number of a style in a terminal's escape sequences. -/
def Style.code : Style → Nat
  | .bold => 1
  | .dim => 2
  | .red => 31
  | .green => 32
  | .yellow => 33
  | .blue => 34
  | .magenta => 35
  | .cyan => 36

/-- The text in a style, if there are colours. -/
def Style.paint (style : Style) (colour : Bool) (text : String) : String :=
  if colour then "\x1b[" ++ toString style.code ++ "m" ++ text ++ "\x1b[0m" else text

def Screen.styled (screen : Screen) (style : Style) (text : String) : String := style.paint screen.colour text

inductive Symbol where
  | check
  | cross
  | hourglass
  | info
  | rocket
  deriving DecidableEq, Repr

/-- The symbol that opens a line, or plain characters on a screen without it. -/
def Screen.symbol (screen : Screen) (s : Symbol) : String :=
  if screen.emoji then
    match s with
    | .check => "✅ "
    | .cross => "❌ "
    | .hourglass => "⏳ "
    | .info => "ℹ️  "
    | .rocket => "🚀 "
  else
    match s with
    | .check => "✓ "
    | .cross => "✗ "
    | .hourglass => "~ "
    | .info => "i "
    | .rocket => "> "

end CommandPipeline.Display
