import DatalogDoc.Text.Utf8

/-!
# Strings of bytes as texts

A shell and the tools it runs handle strings of bytes, whatever these spell. Such a string is kept as
a text in which each character stands for the byte of its number, so that scripts can be read by
their characters and nothing is lost that is not UTF-8.
-/

namespace DatalogDoc.Octets

def ofByte (b : UInt8) : Char := Char.ofNat b.toNat

def toByte (c : Char) : UInt8 := c.toNat.toUInt8

def ofBytes (bytes : Bytes) : Text := bytes.map ofByte

def toBytes (t : Text) : Bytes := t.map toByte

/-- The bytes of a text. -/
def ofText (t : Text) : Text := ofBytes (Utf8.encode t)

/-- The text that bytes spell, as far as they do. -/
def toText (t : Text) : Text := Utf8.decodeLossy (toBytes t)

end DatalogDoc.Octets
