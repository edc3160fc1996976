import CommandPipeline.Platform.World

/-! Patterns of names: stars, question marks and sets of characters in brackets. A backslash takes the
meaning from the character behind it. -/
namespace CommandPipeline.Platform

open Text (Octets)

namespace Glob

/-- The classes of characters by their names. -/
def classes : List (String × (Char → Bool)) :=
  [("alnum", Char.isAlphanum), ("alpha", Char.isAlpha), ("blank", fun c => c == ' ' || c == '\t'),
   ("cntrl", fun c => c.toNat < 32 || c.toNat == 127), ("digit", Char.isDigit),
   ("graph", fun c => 32 < c.toNat && c.toNat < 127), ("lower", Char.isLower),
   ("print", fun c => 32 ≤ c.toNat && c.toNat < 127),
   ("punct", fun c => 32 < c.toNat && c.toNat < 127 && !c.isAlphanum),
   ("space", fun c => c == ' ' || (9 ≤ c.toNat && c.toNat ≤ 13)), ("upper", Char.isUpper),
   ("xdigit", fun c => c.isDigit || "abcdefABCDEF".toList.contains c)]

/-- A class at the front, behind its opening bracket. -/
def class? (pattern : List Char) : Option ((Char → Bool) × List Char) :=
  classes.findSome? fun (name, holds) =>
    let text := ':' :: name.toList ++ [':', ']']
    if text.isPrefixOf pattern then some (holds, pattern.drop text.length) else none

/-- What a character in a pattern means literally, and what follows it. -/
def literal? : List Char → Option (Char × List Char)
  | '\\' :: c :: rest => some (c, rest)
  | c :: rest => some (c, rest)
  | [] => none

/-- Whether a character is in a set, and what follows the set. A set that nothing closes is none. -/
def member? (c : Char) : (fuel : Nat) → (first found : Bool) → List Char → Option (Bool × List Char)
  | 0, _, _, _ | _ + 1, _, _, [] => none
  | fuel + 1, first, found, p :: rest =>
    if p = ']' ∧ !first then some (found, rest)
    else match if p = '[' then class? rest else none with
      | some (holds, rest) => member? c fuel false (found || holds c) rest
      | none => do
        let (low, rest) ← literal? (p :: rest)
        match rest with
        | '-' :: next :: more =>
          if next = ']' then member? c fuel false (found || c == low) rest
          else
            let (high, rest) ← literal? (next :: more)
            member? c fuel false (found || (low ≤ c && c ≤ high)) rest
        | rest => member? c fuel false (found || c == low) rest

/-- Whether a text matches a pattern. One of the `negators` in front of a set turns it round. -/
def matchesWithin (negators : List Char) : (fuel : Nat) → (pattern text : List Char) → Bool
  | 0, _, _ => false
  | _ + 1, [], text => text.isEmpty
  | fuel + 1, '*' :: rest, text =>
    matchesWithin negators fuel rest text ||
      match text with
      | [] => false
      | _ :: text => matchesWithin negators fuel ('*' :: rest) text
  | _ + 1, _ :: _, [] => false
  | fuel + 1, '?' :: rest, _ :: text => matchesWithin negators fuel rest text
  | fuel + 1, '[' :: rest, c :: text =>
    let negated := rest.head?.any negators.contains
    match member? c rest.length true false (if negated then rest.tail else rest) with
    | some (found, rest) => found != negated && matchesWithin negators fuel rest text
    | none => c == '[' && matchesWithin negators fuel rest text
  | fuel + 1, p :: rest, c :: text =>
    match literal? (p :: rest) with
    | some (p, rest) => p == c && matchesWithin negators fuel rest text
    | none => false

/-- Whether all of a text matches a pattern. -/
def fits (negators pattern text : List Char) : Bool :=
  matchesWithin negators (pattern.length + text.length + 1) pattern text

end Glob

end CommandPipeline.Platform
