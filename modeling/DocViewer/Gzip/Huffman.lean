import DocViewer.Text.Basic

/-!
# Canonical Huffman codes

A code is given by the length of the word of each symbol, zero for none. Among words of one length the symbols are in
order, and shorter words come before longer ones. The words have to use up all that is there, but a code may be empty,
and a code of a single word may leave a half unused.
-/

namespace DocViewer.Gzip

/-- Why compressed data could not be read. -/
inductive Fault
  | truncated
  | header
  | headerField
  | deflate
  | checksum
  deriving DecidableEq

def Fault.message : Fault → Text
  | .truncated => "unexpected end of file".toList
  | .header => "invalid gzip header".toList
  | .headerField => "gzip header field too long".toList
  | .deflate => "corrupt deflate stream".toList
  | .checksum => "corrupt gzip stream does not have a matching checksum".toList

/-- The bits still to be read. -/
abbrev Bits := List Bool

/-- The bits of a byte, the lowest first. -/
def bitsOf (b : UInt8) : Bits := (List.range 8).map fun i => b.toNat.testBit i

/-- A number of so many bits, the lowest first. -/
def readBits : Nat → Bits → Except Fault (Nat × Bits)
  | 0, bits => .ok (0, bits)
  | _ + 1, [] => .error .truncated
  | n + 1, b :: bits => do
    let (high, bits) ← readBits n bits
    .ok (2 * high + b.toNat, bits)

/-- How many words there are of each length from 1 on, and the symbols in the order of their words. -/
structure Code where
  counts : List Nat
  symbols : Array Nat

namespace Code

/-- The longest word. -/
def maxLength : Nat := 15

/-- The code with the given lengths, if there is one. -/
def ofLengths? (lengths : List Nat) : Option Code :=
  let sizes := (List.range maxLength).map (· + 1)
  let counts := sizes.map fun n => lengths.count n
  let used : Nat := counts.foldl (· + ·) 0
  let space : Nat := (sizes.zip counts).foldl (fun sum (n, count) => sum + count <<< (maxLength - n)) 0
  if space = 1 <<< maxLength ∨ used = 0 ∨ used = 1 ∧ lengths.contains 1 then
    let symbols := sizes.flatMap fun n =>
      lengths.zipIdx.filterMap fun (length, symbol) => if length = n then some symbol else none
    some ⟨counts, symbols.toArray⟩
  else none

/-- Reads a word bit by bit: `word` is read so far, `first` is the first word of the length at hand, and `index` counts
the shorter words. -/
def readFrom (symbols : Array Nat) (word first index : Nat) : (counts : List Nat) → Bits → Except Fault (Nat × Bits)
  | [], _ => .error .deflate
  | _ :: _, [] => .error .truncated
  | count :: counts, b :: bits =>
    let word := 2 * word + b.toNat
    if word < first + count then
      match symbols[index + (word - first)]? with
      | some symbol => .ok (symbol, bits)
      | none => .error .deflate
    else readFrom symbols word (2 * (first + count)) (index + count) counts bits

/-- The symbol of the word at the front of the bits. -/
def read (code : Code) (bits : Bits) : Except Fault (Nat × Bits) := readFrom code.symbols 0 0 0 code.counts bits

end Code

end DocViewer.Gzip
