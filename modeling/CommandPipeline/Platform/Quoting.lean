import CommandPipeline.Platform.CharacterClass

/-! How programs quote words: in complaints, in lists of files and for a shell to read back. Bytes that
cannot be shown are written in octal. -/
namespace CommandPipeline.Platform

open Text (Octets)

/-! ### Characters -/

/-- The bytes of each character of a text; a byte that belongs to no character stands alone. -/
def charactersFrom : (fuel : Nat) → List UInt8 → List (List UInt8)
  | 0, _ => []
  | _ + 1, [] => []
  | fuel + 1, b :: bytes =>
    match Text.Utf8.front b bytes with
    | .char _ rest => (b :: bytes.take (bytes.length - rest.length)) :: charactersFrom fuel rest
    | _ => [b] :: charactersFrom fuel bytes

/-- The characters of a text, each as the text of its bytes. -/
def characters (charset : Charset) (s : Octets) : List Octets :=
  match charset with
  | .ascii => s.toList.map fun c => String.ofList [c]
  | .utf8 => (charactersFrom (s.length + 1) s.toBytes).map Octets.ofBytes

/-- Whether a character can be shown. -/
def isShown (charset : Charset) (unit : Octets) : Bool :=
  match unit.toList with
  | [c] => Charset.ascii.isShown c
  | _ => unit.toText.toList.all charset.isShown

def octalDigits (c : Char) : List Char :=
  let n := c.toNat
  [Nat.digitChar (n / 64 % 8), Nat.digitChar (n / 8 % 8), Nat.digitChar (n % 8)]

/-- Control characters that have a letter of their own. -/
def controlLetters : List (Nat × Char) :=
  [(7, 'a'), (8, 'b'), (9, 't'), (10, 'n'), (11, 'v'), (12, 'f'), (13, 'r')]

/-- A character that cannot be shown as it is. -/
def escaped (unit : Octets) : List Char :=
  unit.toList.flatMap fun c =>
    match controlLetters.lookup c.toNat with
    | some letter => ['\\', letter]
    | none => '\\' :: octalDigits c

/-! ### Backslash escapes -/

/-- The text with escapes for what cannot be shown, for backslashes and for some other characters. -/
def escapedText (charset : Charset) (special : List Char) (s : Octets) : Octets :=
  String.ofList <| (characters charset s).flatMap fun unit =>
    if unit = "\\" ∨ special.any fun c => unit == String.ofList [c] then '\\' :: unit.toList
    else if isShown charset unit then unit.toList
    else escaped unit

def singleQuote : Char := Char.ofNat 0x27
def doubleQuote : Char := Char.ofNat 0x22

/-- A word between the single quotes of the character set, with escapes for some characters. -/
def quoteSingle (charset : Charset) (special : List Char) (s : Octets) : Octets :=
  match charset with
  | .ascii => "'" ++ escapedText charset (singleQuote :: special) s ++ "'"
  | .utf8 => Octets.ofText "‘" ++ escapedText charset special s ++ Octets.ofText "’"

/-- A word of a command in a complaint. -/
def quoteArgument (charset : Charset) (s : Octets) : Octets := quoteSingle charset [] s

/-- A word between double quotes, with escapes for some characters. -/
def quoteDouble (charset : Charset) (special : List Char) (s : Octets) : Octets :=
  "\"" ++ escapedText charset (doubleQuote :: special) s ++ "\""

/-! ### For a shell to read back -/

/-- A character that means something to a shell wherever it stands. -/
def isShellSpecial (c : Char) : Bool :=
  c == singleQuote || c == doubleQuote || c.toNat == 0x60 || " !$&()*;<=>?[\\^|\t\n\r".toList.contains c

/-- Whether a shell reads the word as something else unless it is quoted, or the word has something that
is to be escaped. -/
def needsQuotes (charset : Charset) (escapes : Bool) (units : List Octets) : Bool :=
  let special (unit : Octets) : Bool := (escapes && !isShown charset unit) || unit.toList.any isShellSpecial
  match units with
  | [] => true
  | [c] => special c || ["#", "~", "\x7b", "\x7d"].contains c
  | c :: rest => c == "#" || c == "~" || (c :: rest).any special

/-- Whether all characters mean nothing to a shell between double quotes. -/
def arePlainInDoubleQuotes (charset : Charset) : (first : Bool) → List Octets → Bool
  | _, [] => true
  | first, unit :: rest =>
    let special : Bool := unit != "'" && unit != " " && unit.toList.any fun c =>
      isShellSpecial c || c.toNat == 0x7B || c.toNat == 0x7D || ((c == '#' || c == '~') && !first)
    isShown charset unit && !special && arePlainInDoubleQuotes charset false rest

/-- The characters between single quotes. Escapes, if they are wanted, stand in quotes of their own
behind a dollar sign. -/
def shellChars (charset : Charset) (escapes : Bool) : (escaping : Bool) → List Octets → List Char
  | _, [] => []
  | escaping, unit :: rest =>
    if !escapes || isShown charset unit then
      (if escaping && unit != "'" then ['\'', '\''] else []) ++
        (if unit = "'" then ['\'', '\\', '\'', '\''] else unit.toList) ++ shellChars charset escapes false rest
    else
      (if escaping then [] else ['\'', '$', '\'']) ++ escaped unit ++ shellChars charset escapes true rest

/-- A word in quotes that a shell takes off, in which what cannot be shown is escaped if that is
wanted. -/
def quoteForShell (charset : Charset) (escapes : Bool) (s : Octets) : Octets :=
  let units := characters charset s
  if units.contains "'" && arePlainInDoubleQuotes charset true units then "\"" ++ s ++ "\""
  else "'" ++ String.ofList (shellChars charset escapes false units) ++ "'"

/-- The name of a file in quotes. -/
def quoteName (charset : Charset) (s : Octets) : Octets := quoteForShell charset true s

/-- The name of a file, in quotes if it needs them. -/
def showName (charset : Charset) (s : Octets) : Octets :=
  if needsQuotes charset true (characters charset s) then quoteName charset s else s

end CommandPipeline.Platform
