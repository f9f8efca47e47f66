import DocViewer.Gzip.Checksum
import DocViewer.Gzip.Deflate

/-!
# Compressed files

A compressed file starts with a header, whose fields are marked by flags, followed by deflated data, its checksum and
its length modulo 2 ^ 32. What follows is ignored. The viewer takes whatever inflater its world has; `contents` is the
one that the program runs with.
-/

namespace DocViewer.Gzip

/-- A number of so many bytes, the lowest first. -/
def littleEndian (b : Bytes) : Nat := b.foldr (fun b n => n * 256 + b.toNat) 0

/-- The first so many bytes and the rest. -/
def splitBytes (n : Nat) (b : Bytes) : Except Fault (Bytes × Bytes) :=
  let first := b.take n
  if first.length < n then .error .truncated else .ok (first, b.drop n)

/-- The longest text of a header. -/
def headerTextLimit : Nat := 65535

/-- What follows a text of the header and the zero that ends it. -/
def dropHeaderText (b : Bytes) : Except Fault Bytes :=
  let (text, rest) := b.span (· ≠ 0)
  if headerTextLimit < text.length then .error .headerField
  else
    match rest with
    | [] => .error .truncated
    | _ :: rest => .ok rest

/-- What follows the header. -/
def dropHeader (b : Bytes) : Except Fault Bytes := do
  let (start, rest) ← splitBytes 10 b
  let flags := start.getD 3 0
  let has (flag : UInt8) : Bool := flags &&& flag ≠ 0
  if start.take 3 ≠ [0x1f, 0x8b, 8] ∨ has 0xe0 then .error .header
  else do
    let rest ←
      if has 4 then do
        let (length, rest) ← splitBytes 2 rest
        let (_, rest) ← splitBytes (littleEndian length) rest
        pure rest
      else pure rest
    let rest ← if has 8 then dropHeaderText rest else pure rest
    let rest ← if has 16 then dropHeaderText rest else pure rest
    if has 2 then
      let crc := crc32 (b.take (b.length - rest.length))
      let (check, rest) ← splitBytes 2 rest
      if littleEndian check ≠ crc.toNat % 65536 then .error .header else .ok rest
    else .ok rest

/-- The bytes that were compressed. -/
def gunzip (b : Bytes) : Except Fault Bytes := do
  let rest ← dropHeader b
  let (data, rest) ← inflate rest
  let (crc, rest) ← splitBytes 4 rest
  let (length, _) ← splitBytes 4 rest
  if littleEndian crc ≠ (crc32 data).toNat ∨ littleEndian length ≠ data.length % UInt32.size then .error .checksum
  else .ok data

/-- The bytes that were compressed, or what is wrong. -/
def contents (b : Bytes) : Except Text Bytes := (gunzip b).mapError Fault.message

end DocViewer.Gzip
