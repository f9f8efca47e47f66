import DocViewer.Gzip.Huffman

/-!
# Deflated data

Deflated data is a row of blocks: bytes as they are, or symbols of two Huffman codes, which are fixed or stand at the
front of the block. A symbol of the first code is a byte, the end of the block, or the length of a stretch that occurred
before; a symbol of the second code tells how far back. What lies before the first byte reads as zero.
-/

namespace DocViewer.Gzip

/-- The shortest stretch of each length symbol from 257 on, with the number of bits that are added to it. -/
def lengthBases : Array (Nat × Nat) :=
  #[(3, 0), (4, 0), (5, 0), (6, 0), (7, 0), (8, 0), (9, 0), (10, 0), (11, 1), (13, 1), (15, 1), (17, 1), (19, 2),
    (23, 2), (27, 2), (31, 2), (35, 3), (43, 3), (51, 3), (59, 3), (67, 4), (83, 4), (99, 4), (115, 4), (131, 5),
    (163, 5), (195, 5), (227, 5), (258, 0)]

/-- The shortest distance of each distance symbol, with the number of bits that are added to it. -/
def distanceBases : Array (Nat × Nat) :=
  #[(1, 0), (2, 0), (3, 0), (4, 0), (5, 1), (7, 1), (9, 2), (13, 2), (17, 3), (25, 3), (33, 4), (49, 4), (65, 5),
    (97, 5), (129, 6), (193, 6), (257, 7), (385, 7), (513, 8), (769, 8), (1025, 9), (1537, 9), (2049, 10), (3073, 10),
    (4097, 11), (6145, 11), (8193, 12), (12289, 12), (16385, 13), (24577, 13)]

/-- The codes of a block without codes of its own. -/
def fixedLengths : List Nat :=
  List.replicate 144 8 ++ List.replicate 112 9 ++ List.replicate 24 7 ++ List.replicate 8 8

def fixedDistances : List Nat := List.replicate 32 5

/-- In what order the lengths of the words for lengths are written. -/
def lengthOrder : List Nat := [16, 17, 18, 0, 8, 7, 9, 6, 10, 5, 11, 4, 12, 3, 13, 2, 14, 1, 15]

/-- Writes once more `length` bytes that occurred `distance` bytes before. -/
def repeatBytes (distance : Nat) : (length : Nat) → Array UInt8 → Array UInt8
  | 0, out => out
  | n + 1, out =>
    let b := if distance ≤ out.size then out[out.size - distance]?.getD 0 else 0
    repeatBytes distance n (out.push b)

/-- The number that a symbol stands for: the base of the table and the bits to be added. -/
def readBase (bases : Array (Nat × Nat)) (symbol : Nat) (bits : Bits) : Except Fault (Nat × Bits) :=
  match bases[symbol]? with
  | none => .error .deflate
  | some (base, count) => do
    let (more, bits) ← readBits count bits
    .ok (base + more, bits)

/-- The symbols of a block, up to its end. Every symbol takes a bit, so `fuel` is the number of bits. -/
def readSymbols (literals distances : Code) : (fuel : Nat) → Bits → Array UInt8 → Except Fault (Bits × Array UInt8)
  | 0, _, _ => .error .truncated
  | fuel + 1, bits, out => do
    let (symbol, bits) ← literals.read bits
    if symbol < 256 then readSymbols literals distances fuel bits (out.push symbol.toUInt8)
    else if symbol = 256 then .ok (bits, out)
    else do
      let (length, bits) ← readBase lengthBases (symbol - 257) bits
      let (symbol, bits) ← distances.read bits
      let (distance, bits) ← readBase distanceBases symbol bits
      readSymbols literals distances fuel bits (repeatBytes distance length out)

/-- So many bytes as they are. -/
def readStored : Nat → Bits → Array UInt8 → Except Fault (Bits × Array UInt8)
  | 0, bits, out => .ok (bits, out)
  | n + 1, bits, out =>
    match readBits 8 bits with
    | .ok (b, bits) => readStored n bits (out.push b.toUInt8)
    | .error fault => .error fault

/-- The lengths of `count` words, the last one first, which are themselves written in a code: 16 repeats the last
length, 17 and 18 stand for zeros. -/
def readLengths (code : Code) : (fuel count : Nat) → Bits → List Nat → Except Fault (List Nat × Bits)
  | _, 0, bits, lengths => .ok (lengths, bits)
  | 0, _, _, _ => .error .truncated
  | fuel + 1, count + 1, bits, lengths => do
    let (symbol, bits) ← code.read bits
    let (length, times, bits) ← match symbol, lengths with
      | 16, [] => .error .deflate
      | 16, last :: _ => (readBits 2 bits).map fun (n, bits) => (last, n + 3, bits)
      | 17, _ => (readBits 3 bits).map fun (n, bits) => (0, n + 3, bits)
      | 18, _ => (readBits 7 bits).map fun (n, bits) => (0, n + 11, bits)
      | length, _ => .ok (length, 1, bits)
    if count + 1 < times then .error .deflate
    else readLengths code fuel (count + 1 - times) bits (List.replicate times length ++ lengths)

/-- So many numbers of three bits. -/
def readTriples : Nat → Bits → Except Fault (List Nat × Bits)
  | 0, bits => .ok ([], bits)
  | n + 1, bits => do
    let (first, bits) ← readBits 3 bits
    let (rest, bits) ← readTriples n bits
    .ok (first :: rest, bits)

def codeOf (lengths : List Nat) : Except Fault Code :=
  match Code.ofLengths? lengths with
  | some code => .ok code
  | none => .error .deflate

/-- The two codes at the front of a block. -/
def readCodes (bits : Bits) : Except Fault (Code × Code × Bits) := do
  let (n, bits) ← readBits 5 bits
  let (m, bits) ← readBits 5 bits
  let (k, bits) ← readBits 4 bits
  let literals := n + 257
  let distances := m + 1
  if 286 < literals ∨ 30 < distances then .error .deflate
  else do
    let (triples, bits) ← readTriples (k + 4) bits
    let code ← codeOf ((List.range 19).map fun symbol => ((lengthOrder.zip triples).lookup symbol).getD 0)
    let (reversed, bits) ← readLengths code bits.length (literals + distances) bits []
    let lengths := reversed.reverse
    let literalCode ← codeOf (lengths.take literals)
    let distanceCode ← codeOf (lengths.drop literals)
    .ok (literalCode, distanceCode, bits)

/-- The bits from the next full byte on, where the number of all bits is a multiple of eight. -/
def alignBits (bits : Bits) : Bits := bits.drop (bits.length % 8)

/-- Blocks up to the last one. Every block takes a bit, so `fuel` is the number of bits. -/
def readBlocks : (fuel : Nat) → Bits → Array UInt8 → Except Fault (Bits × Array UInt8)
  | 0, _, _ => .error .truncated
  | fuel + 1, bits, out => do
    let (last, bits) ← readBits 1 bits
    let (kind, bits) ← readBits 2 bits
    let (bits, out) ← match kind with
      | 0 => do
        let bits := alignBits bits
        let (length, bits) ← readBits 16 bits
        let (check, bits) ← readBits 16 bits
        if length + check ≠ 65535 then .error .deflate else readStored length bits out
      | 1 => do
        let literals ← codeOf fixedLengths
        let distances ← codeOf fixedDistances
        readSymbols literals distances bits.length bits out
      | 2 => do
        let (literals, distances, bits) ← readCodes bits
        readSymbols literals distances bits.length bits out
      | _ => .error .deflate
    if last = 1 then .ok (bits, out) else readBlocks fuel bits out

/-- Inflates the data at the front of some bytes, and gives the bytes behind it. -/
def inflate (b : Bytes) : Except Fault (Bytes × Bytes) := do
  let bits := b.flatMap bitsOf
  let (rest, out) ← readBlocks bits.length bits #[]
  .ok (out.toList, b.drop (b.length - rest.length / 8))

end DocViewer.Gzip
