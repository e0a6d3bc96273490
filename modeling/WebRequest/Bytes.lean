-- Byte sequences, as the transport carries them.

namespace WebRequest

abbrev Bytes := List UInt8

namespace Bytes

/-- The UTF-8 form of a text. -/
def ofText (s : String) : Bytes := s.toUTF8.data.toList

/-- The character with the code of a byte. -/
def charOf (b : UInt8) : Char := Char.ofNat b.toNat

/-- The text whose characters have the codes of the bytes. -/
def toChars (bs : Bytes) : List Char := bs.map charOf

/-- The byte of an ASCII character. -/
def byteOf (c : Char) : UInt8 := c.toUInt8

end Bytes

end WebRequest
