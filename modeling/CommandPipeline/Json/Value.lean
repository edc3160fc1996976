/-! JSON values and their indented text. -/
namespace CommandPipeline.Json

inductive Value where
  | null
  | bool (b : Bool)
  /-- The number `mantissa / 10 ^ places`. -/
  | number (mantissa : Int) (places : Nat)
  | string (s : String)
  | array (items : List Value)
  /-- The fields in the order in which they are written. -/
  | object (fields : List (String × Value))
  deriving Inhabited

namespace Value

def ofNat (n : Nat) : Value := .number n 0

/-- The first field of a name. -/
def field? (name : String) : List (String × Value) → Option Value
  | [] => none
  | f :: rest => if name = f.1 then some f.2 else field? name rest

end Value

/-! ### Text -/

/-- A character inside quotes. -/
def escapeChar (c : Char) : List Char :=
  let n := c.toNat
  if n = 0x22 then ['\\', c]
  else if n = 0x5C then ['\\', '\\']
  else if n = 0x08 then ['\\', 'b']
  else if n = 0x0C then ['\\', 'f']
  else if n = 0x0A then ['\\', 'n']
  else if n = 0x0D then ['\\', 'r']
  else if n = 0x09 then ['\\', 't']
  else if n < 0x20 then ['\\', 'u', '0', '0', Nat.digitChar (n / 16), Nat.digitChar (n % 16)]
  else [c]

def quote (s : String) : String :=
  "\"" ++ String.ofList (s.toList.flatMap escapeChar) ++ "\""

/-- The digits of a number with `places` of them behind the point. -/
def numberText (mantissa : Int) (places : Nat) : String :=
  if places = 0 then toString mantissa
  else
    let n := mantissa.natAbs
    let fraction := (toString (n % Nat.pow 10 places)).toList
    let zeros := List.replicate (places - fraction.length) '0'
    (if mantissa < 0 then "-" else "") ++ toString (n / Nat.pow 10 places) ++ "." ++
      String.ofList (zeros ++ fraction)

def indent (depth : Nat) : String := String.ofList (List.replicate (2 * depth) ' ')

/-- Items on lines of their own between two brackets. -/
def block (opening closing : String) (depth : Nat) (items : List String) : String :=
  match items with
  | [] => opening ++ closing
  | _ => opening ++ "\n" ++ ",\n".intercalate (items.map (indent (depth + 1) ++ ·)) ++ "\n" ++
      indent depth ++ closing

mutual

/-- The text of a value whose first line stands at the given depth. -/
def pretty (depth : Nat) : Value → String
  | .null => "null"
  | .bool b => if b then "true" else "false"
  | .number mantissa places => numberText mantissa places
  | .string s => quote s
  | .array items => block "[" "]" depth (prettyItems (depth + 1) items)
  | .object fields => block "\x7b" "\x7d" depth (prettyFields (depth + 1) fields)

def prettyItems (depth : Nat) : List Value → List String
  | [] => []
  | v :: rest => pretty depth v :: prettyItems depth rest

def prettyFields (depth : Nat) : List (String × Value) → List String
  | [] => []
  | (name, v) :: rest => (quote name ++ ": " ++ pretty depth v) :: prettyFields depth rest

end

end CommandPipeline.Json
