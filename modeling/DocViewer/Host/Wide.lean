import DocViewer.Text.Utf8

/-!
# Bytes as characters

Programs and scripts work on bytes. Each byte of a text of theirs is held as the character with its number (`wide`), and
goes out as that byte again (`narrow`).
-/

namespace DocViewer.Host

/-- The character that holds a byte. -/
def wideByte (b : UInt8) : Char := Char.ofNat b.toNat

def wide (b : Bytes) : Text := b.map wideByte

def narrow (t : Text) : Bytes := t.map fun c => c.toNat.toUInt8

/-- The path that an argument names. -/
def pathOf (argument : Text) : Text := decodeLossy (narrow argument)

/-- A path or a name of a file as an argument. -/
def argumentOf (path : Text) : Text := wide (encode path)

/-- A number in decimal digits. -/
def decimal (n : Nat) : Text := (toString n).toList

/-- A number with a sign if it is below zero. -/
def signed (n : Int) : Text := if n < 0 then '-' :: decimal n.natAbs else decimal n.natAbs

end DocViewer.Host
