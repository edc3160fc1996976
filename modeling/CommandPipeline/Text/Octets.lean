import CommandPipeline.Text.Utf8

/-! Texts of bytes. A program may meet bytes that are no UTF-8, so its words are strings in which each
character has a code below 256 and stands for one byte. -/
namespace CommandPipeline.Text

/-- A string whose characters stand for bytes. -/
abbrev Octets := String

namespace Octets

def ofBytes (bytes : List UInt8) : Octets := String.ofList (bytes.map fun b => Char.ofNat b.toNat)

/-- The bytes that a text has in UTF-8. -/
def ofText (s : String) : Octets :=
  if s.utf8ByteSize = s.length then s else ofBytes (utf8 s)

def toBytes (s : Octets) : List UInt8 := s.toList.map fun c => c.toNat.toUInt8

/-- The text that the bytes are in UTF-8, with U+FFFD for each fault. -/
def toText (s : Octets) : String := Utf8.decodeLossy s.toBytes

end Octets

end CommandPipeline.Text
