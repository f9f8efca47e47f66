import DocViewer.Text.Basic

/-!
# UTF-8

`encode` writes a text as bytes. `decodeLossy` reads any bytes: each longest stretch of bytes that begins a character
but does not end it, and each byte that begins none, is read as U+FFFD. It runs a small machine (`Decoder.step`) over
the bytes; between two bytes the machine holds the sequence it is in (`Sequence`).
-/

namespace DocViewer

/-- The bytes of a text. -/
def encode (t : Text) : Bytes := t.flatMap String.utf8EncodeChar

/-- Stands for bytes that are no character. -/
def replacement : Char := '\ufffd'

/-- A sequence that has begun: how many bytes are missing, the range of the next one, and the bits so far. -/
structure Sequence where
  missing : Nat
  low : UInt8
  high : UInt8
  bits : Nat

/-- The text so far, its last character first, and the sequence the decoder is in. -/
structure Decoder where
  text : Text
  sequence : Option Sequence

namespace Decoder

def start : Decoder := ⟨[], none⟩

/-- The sequence that a byte begins. -/
def sequence? (b : UInt8) : Option Sequence :=
  let bits (mask : UInt8) := (b &&& mask).toNat
  if 0xc2 ≤ b ∧ b ≤ 0xdf then some ⟨1, 0x80, 0xbf, bits 0x1f⟩
  else if b = 0xe0 then some ⟨2, 0xa0, 0xbf, bits 0x0f⟩
  else if b = 0xed then some ⟨2, 0x80, 0x9f, bits 0x0f⟩
  else if 0xe1 ≤ b ∧ b ≤ 0xef then some ⟨2, 0x80, 0xbf, bits 0x0f⟩
  else if b = 0xf0 then some ⟨3, 0x90, 0xbf, bits 0x07⟩
  else if 0xf1 ≤ b ∧ b ≤ 0xf3 then some ⟨3, 0x80, 0xbf, bits 0x07⟩
  else if b = 0xf4 then some ⟨3, 0x80, 0x8f, bits 0x07⟩
  else none

/-- A byte that begins a character, or none. -/
def first (text : Text) (b : UInt8) : Decoder :=
  if b < 0x80 then ⟨Char.ofNat b.toNat :: text, none⟩
  else
    match sequence? b with
    | some s => ⟨text, some s⟩
    | none => ⟨replacement :: text, none⟩

def step (d : Decoder) (b : UInt8) : Decoder :=
  match d.sequence with
  | none => first d.text b
  | some s =>
    if s.low ≤ b ∧ b ≤ s.high then
      let bits := s.bits * 64 + (b &&& 0x3f).toNat
      if s.missing ≤ 1 then ⟨Char.ofNat bits :: d.text, none⟩
      else ⟨d.text, some ⟨s.missing - 1, 0x80, 0xbf, bits⟩⟩
    else first (replacement :: d.text) b

/-- The text, where a sequence that did not end counts as no character. -/
def finish (d : Decoder) : Text :=
  (if d.sequence.isSome then replacement :: d.text else d.text).reverse

end Decoder

def decodeLossy (b : Bytes) : Text := (b.foldl Decoder.step .start).finish

/-- The text that the bytes encode, if they encode one. -/
def decode? (b : Bytes) : Option Text :=
  let t := decodeLossy b
  if encode t = b then some t else none

end DocViewer
