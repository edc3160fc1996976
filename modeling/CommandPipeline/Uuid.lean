/-! Identifiers of 128 bits, written as 32 hexadecimal digits. -/
namespace CommandPipeline

structure Uuid where
  digits : List (Fin 16)
  length_eq : digits.length = 32
  deriving DecidableEq

namespace Uuid

def zero : Uuid := ⟨List.replicate 32 0, List.length_replicate⟩

def hexDigit (d : Fin 16) : Char := Nat.digitChar d.val

def hexValue? (c : Char) : Option (Fin 16) :=
  (List.finRange 16).find? fun d => hexDigit d == c.toLower

/-- The digits in groups of 8, 4, 4, 4 and 12 with hyphens between them. -/
def render (u : Uuid) : String :=
  let cs := u.digits.map hexDigit
  let group (start size : Nat) : List Char := (cs.drop start).take size
  String.ofList (group 0 8 ++ '-' :: group 8 4 ++ '-' :: group 12 4 ++ '-' :: group 16 4 ++
    '-' :: group 20 12)

/-- The first eight digits, which name a run on the screen. -/
def short (u : Uuid) : String := String.ofList ((u.digits.map hexDigit).take 8)

def ofDigits? (cs : List Char) : Option Uuid :=
  match cs.mapM hexValue? with
  | some digits => if h : digits.length = 32 then some ⟨digits, h⟩ else none
  | none => none

/-- Reads the hyphenated form. -/
def ofHyphenated? (cs : List Char) : Option Uuid :=
  if cs.length = 36 ∧ cs[8]? = some '-' ∧ cs[13]? = some '-' ∧ cs[18]? = some '-' ∧
      cs[23]? = some '-' then
    ofDigits? (cs.take 8 ++ (cs.drop 9).take 4 ++ (cs.drop 14).take 4 ++ (cs.drop 19).take 4 ++
      cs.drop 24)
  else none

/-- Reads 32 digits, the hyphenated form, the hyphenated form in braces, or that form behind the
name of its namespace. Case does not matter. -/
def parse? (s : String) : Option Uuid :=
  let cs := s.toList
  match ofDigits? cs with
  | some u => some u
  | none =>
    match ofHyphenated? cs with
    | some u => some u
    | none =>
      match "urn:uuid:".toList.isPrefixOf? (cs.map Char.toLower) with
      | some rest => ofHyphenated? rest
      | none =>
        if cs.head? = some (Char.ofNat 0x7B) ∧ cs.getLast? = some (Char.ofNat 0x7D) then
          ofHyphenated? cs.tail.dropLast
        else none

def ofNat (n : Nat) : Uuid :=
  ⟨(List.range 32).reverse.map fun i => Fin.ofNat 16 (n / Nat.pow 16 i), by simp⟩

end Uuid

end CommandPipeline
