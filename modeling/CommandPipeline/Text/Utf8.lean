/-! UTF-8 over lists of bytes: strict decoding, which says where and how a byte string stops being
well formed, and lossy decoding, which puts a replacement character in place of each fault. -/
namespace CommandPipeline.Text

/-- The bytes of a text. -/
def utf8 (s : String) : List UInt8 :=
  s.toUTF8.data.toList

namespace Utf8

/-- Where a byte string stops being well formed. -/
structure Fault where
  /-- The number of well-formed bytes before the fault. -/
  index : Nat
  /-- The number of bytes that no character can begin with, or none if the bytes end inside a
  character. -/
  length : Option Nat
  deriving DecidableEq, Repr

def Fault.message (f : Fault) : String :=
  match f.length with
  | some n => "invalid utf-8 sequence of " ++ toString n ++ " bytes from index " ++ toString f.index
  | none => "incomplete utf-8 byte sequence from index " ++ toString f.index

/-- What a first byte asks of the bytes after it. -/
structure Lead where
  /-- How many continuation bytes follow. -/
  owed : Nat
  /-- The bounds of the first of them. -/
  low : Nat
  high : Nat
  /-- The bits of the code point that the first byte gives. -/
  bits : Nat

/-- The first bytes above ASCII. The narrower bounds shut out overlong forms, surrogates and code
points above U+10FFFF. -/
def lead? (b : Nat) : Option Lead :=
  if 0xC2 ≤ b ∧ b ≤ 0xDF then some ⟨1, 0x80, 0xBF, b - 0xC0⟩
  else if b = 0xE0 then some ⟨2, 0xA0, 0xBF, 0⟩
  else if b = 0xED then some ⟨2, 0x80, 0x9F, 0xD⟩
  else if 0xE1 ≤ b ∧ b ≤ 0xEF then some ⟨2, 0x80, 0xBF, b - 0xE0⟩
  else if b = 0xF0 then some ⟨3, 0x90, 0xBF, 0⟩
  else if 0xF1 ≤ b ∧ b ≤ 0xF3 then some ⟨3, 0x80, 0xBF, b - 0xF0⟩
  else if b = 0xF4 then some ⟨3, 0x80, 0x8F, 4⟩
  else none

/-- What stands at the front of a byte string. -/
inductive Front where
  /-- A character. -/
  | char (c : Char) (rest : List UInt8)
  /-- Bytes that begin no character. -/
  | bad (length : Nat) (rest : List UInt8)
  /-- The beginning of a character whose end is missing. -/
  | cut

/-- Reads `owed` continuation bytes, the first of them between `low` and `high`, after `taken` bytes
that gave the code point `bits` so far. -/
def follow : (owed low high bits taken : Nat) → List UInt8 → Front
  | 0, _, _, bits, _, rest => .char (Char.ofNat bits) rest
  | _ + 1, _, _, _, _, [] => .cut
  | owed + 1, low, high, bits, taken, b :: rest =>
    if low ≤ b.toNat ∧ b.toNat ≤ high then
      follow owed 0x80 0xBF (bits * 64 + b.toNat % 64) (taken + 1) rest
    else .bad taken (b :: rest)

/-- The front of the byte string `b :: rest`. -/
def front (b : UInt8) (rest : List UInt8) : Front :=
  if b.toNat < 0x80 then .char (Char.ofNat b.toNat) rest
  else match lead? b.toNat with
    | none => .bad 1 rest
    | some l => follow l.owed l.low l.high l.bits 1 rest

def Front.rest : Front → List UInt8
  | .char _ rest => rest
  | .bad _ rest => rest
  | .cut => []

theorem length_rest_follow (owed low high bits taken : Nat) (bytes : List UInt8) :
    (follow owed low high bits taken bytes).rest.length ≤ bytes.length := by
  fun_induction follow owed low high bits taken bytes with
  | case1 => simp [Front.rest]
  | case2 => simp [Front.rest]
  | case3 _ _ _ _ _ b rest _ ih => exact Nat.le_succ_of_le ih
  | case4 => simp [Front.rest]

theorem length_rest_front (b : UInt8) (rest : List UInt8) :
    (front b rest).rest.length ≤ rest.length := by
  unfold front
  split
  · simp [Front.rest]
  · split
    · simp [Front.rest]
    · exact length_rest_follow _ _ _ _ _ _

/-! ### Decoding -/

/-- The characters of well-formed bytes, of which the first has the given index. -/
def decodeFrom (index : Nat) : List UInt8 → Except Fault (List Char)
  | [] => .ok []
  | b :: bytes =>
    have := length_rest_front b bytes
    match h : front b bytes with
    | .char c rest => do
      have : rest.length < bytes.length + 1 := by simp [h, Front.rest] at this; omega
      let cs ← decodeFrom (index + c.utf8Size) rest
      return c :: cs
    | .bad n _ => .error ⟨index, some n⟩
    | .cut => .error ⟨index, none⟩
  termination_by bytes => bytes.length

/-- The text with these bytes, or the first fault of the bytes. -/
def decode (bytes : List UInt8) : Except Fault String :=
  (decodeFrom 0 bytes).map String.ofList

/-- The characters of the bytes, with U+FFFD for each fault. -/
def lossyChars : List UInt8 → List Char
  | [] => []
  | b :: bytes =>
    have := length_rest_front b bytes
    match h : front b bytes with
    | .char c rest =>
      have : rest.length < bytes.length + 1 := by simp [h, Front.rest] at this; omega
      c :: lossyChars rest
    | .bad _ rest =>
      have : rest.length < bytes.length + 1 := by simp [h, Front.rest] at this; omega
      Char.ofNat 0xFFFD :: lossyChars rest
    | .cut => [Char.ofNat 0xFFFD]
  termination_by bytes => bytes.length

def decodeLossy (bytes : List UInt8) : String :=
  String.ofList (lossyChars bytes)

end Utf8

end CommandPipeline.Text
