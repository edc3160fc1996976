import CommandPipeline.Text.Octets

/-! The order of names with version numbers in them, in which numbers count as numbers, letters come
before other signs, and a tilde before everything. -/
namespace CommandPipeline.Platform

open Text (Octets)

namespace VersionOrder

/-- The place of a character that is no digit. What ends is at -1, and a digit at 0. -/
def rank (c : Char) : Int :=
  if c.isAlpha then c.toNat else if c = '~' then -2 else c.toNat + 256

/-- Compares texts as runs of digits with other characters between them. -/
def compareFrom : (fuel : Nat) → List Char → List Char → Ordering
  | 0, _, _ => .eq
  | fuel + 1, a, b =>
    if a.isEmpty && b.isEmpty then .eq
    else
      let x := a.takeWhile fun c => !c.isDigit
      let y := b.takeWhile fun c => !c.isDigit
      let a := a.drop x.length
      let b := b.drop y.length
      let key (x rest : List Char) : List Int :=
        x.map rank ++ [if x.length = y.length then 0 else if rest.isEmpty then -1 else 0]
      let m := a.takeWhile Char.isDigit
      let n := b.takeWhile Char.isDigit
      let number (digits : List Char) : List Nat :=
        let kept := digits.dropWhile (· == '0')
        kept.length :: kept.map Char.toNat
      (compare (key x a) (key y b)).then
        ((compare (number m) (number n)).then (compareFrom fuel (a.drop m.length) (b.drop n.length)))

/-- The text without its endings, each a point with letters and digits of which the first is a letter. -/
def withoutEndings (cs : List Char) : List Char :=
  let isPart (first : Bool) (c : Char) : Bool := c.isAlpha || c == '~' || (!first && c.isDigit)
  let rec isEndings : (fuel : Nat) → List Char → Bool
    | 0, cs => cs.isEmpty
    | fuel + 1, cs =>
      match cs with
      | [] => true
      | '.' :: c :: rest => isPart true c && isEndings fuel (rest.dropWhile (isPart false))
      | _ => false
  match (List.range cs.length).find? fun n => isEndings cs.length (cs.drop n) with
  | some n => cs.take n
  | none => cs

/-- Whether a name stands for a directory itself or the one around it, and whether it is hidden. -/
def kind (cs : List Char) : Nat :=
  match cs with
  | [] => 0
  | ['.'] => 1
  | ['.', '.'] => 2
  | '.' :: _ => 3
  | _ => 4

end VersionOrder

/-- Compares names, first without their endings. -/
def compareVersions (a b : Octets) : Ordering :=
  let (a, b) := (a.toList, b.toList)
  let order (a b : List Char) : Ordering := VersionOrder.compareFrom (a.length + b.length + 1) a b
  (compare (VersionOrder.kind a) (VersionOrder.kind b)).then
    ((order (VersionOrder.withoutEndings a) (VersionOrder.withoutEndings b)).then (order a b))

end CommandPipeline.Platform
