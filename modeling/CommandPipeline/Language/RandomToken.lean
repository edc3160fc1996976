/-! Random tokens are drawn letter by letter from the ASCII letters and digits. -/
namespace CommandPipeline.Language

/-- The letters of tokens. -/
def tokenAlphabet : List Char :=
  "ABCDEFGHIJKLMNOPQRSTUVWXYZabcdefghijklmnopqrstuvwxyz0123456789".toList

def tokenLetter (n : Fin 62) : Char := (tokenAlphabet[n.val]?).getD 'A'

/-- The length of the tokens of a text and the letters that are drawn for them. -/
structure TokenSource where
  length : Nat := 10
  /-- Letter `i` of token `k`. -/
  letter : Nat → Nat → Fin 62

/-- The first `length` letters that are drawn for a token. -/
def randomToken (length : Nat) (letter : Nat → Fin 62) : String :=
  String.ofList ((List.range length).map fun i => tokenLetter (letter i))

def TokenSource.token (source : TokenSource) (k : Nat) : String :=
  randomToken source.length (source.letter k)

theorem length_randomToken (length : Nat) (letter : Nat → Fin 62) :
    (randomToken length letter).length = length := by
  simp [randomToken]

theorem isAlphanum_tokenLetter (n : Fin 62) : (tokenLetter n).isAlphanum = true := by
  revert n
  decide +kernel

end CommandPipeline.Language
