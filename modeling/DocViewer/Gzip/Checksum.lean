import DocViewer.Text.Basic

/-!
# CRC-32

The remainder of the bytes, the lowest bit of each first, by the polynomial 0xedb88320.
-/

namespace DocViewer.Gzip

/-- One bit further. -/
def crcBit (crc : UInt32) : UInt32 := if crc &&& 1 = 1 then (crc >>> 1) ^^^ 0xedb88320 else crc >>> 1

/-- One byte further. -/
def crcByte (crc : UInt32) (b : UInt8) : UInt32 := Nat.repeat crcBit 8 (crc ^^^ b.toUInt32)

def crc32 (b : Bytes) : UInt32 := b.foldl crcByte 0xffffffff ^^^ 0xffffffff

end DocViewer.Gzip
