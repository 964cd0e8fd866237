import Gazette.Bytes.Corruption

/-!
# Inflating

Data packed with the DEFLATE format are a row of bits that holds blocks. A block is stored as it is, or a
row of codes for bytes and for copies of what came before. Codes are canonical: they are given by their
lengths alone.
-/

namespace Gazette.Inflate

open Bytes (Corruption)

/-- A reader of bits, with what is left of them. -/
abbrev Reads (α : Type) := List Bool → Except Corruption (α × List Bool)

/-- The bits of a byte, the lowest first. -/
def bitsOf (b : UInt8) : List Bool := (List.range 8).map fun i ↦ b.toNat.testBit i

/-- The bits of bytes, by `bitsOf`. -/
def bitsOfAll (bytes : List UInt8) : List Bool := bytes.flatMap bitsOf

/-- A number of `n` bits, the lowest first. -/
def number : Nat → Reads Nat
  | 0, bits => .ok (0, bits)
  | _ + 1, [] => .error .incomplete
  | n + 1, b :: bits => do
    let (high, bits) ← number n bits
    return (2 * high + b.toNat, bits)

/-! ## Codes -/

/-- A canonical code. -/
structure Code where
  /-- How many codes there are of each length, from one bit on. -/
  counts : List Nat
  /-- What they mean, the shorter codes first. -/
  symbols : Array Nat

/-- The code in which the symbol at each place has a code of the given length, or none. -/
def Code.ofLengths (lengths : List Nat) : Code where
  counts := (List.range 15).map fun n ↦ lengths.count (n + 1)
  symbols := ((List.range 15).flatMap fun n ↦
    (lengths.zipIdx.filter (·.1 = n + 1)).map (·.2)).toArray

/-- How many codes of the greatest length there is room for, of those that are used. A code is complete
if all of it is. -/
def Code.room (c : Code) : Nat := c.counts.foldl (fun total n ↦ 2 * (total + n)) 0

/-- Whether a code may be used: it is complete, or has at most one symbol, where that is allowed. -/
def Code.isFit (single : Bool) (c : Code) : Bool :=
  c.room == 65536 || (single && c.symbols.size ≤ 1)

/-- The symbol whose code comes next. `code` holds the bits so far, `first` the first code of this length,
and `index` the number of shorter codes. -/
def Code.symbolFrom (c : Code) : List Nat → Nat → Nat → Nat → Reads Nat
  | [], _, _, _, _ => .error .corrupt
  | _ :: _, _, _, _, [] => .error .incomplete
  | count :: counts, code, first, index, b :: bits =>
    let code := code + b.toNat
    if code < first + count then
      match c.symbols[index + (code - first)]? with
      | some s => .ok (s, bits)
      | none => .error .corrupt
    else c.symbolFrom counts (2 * code) (2 * (first + count)) (index + count) bits

/-- The symbol whose code comes next. -/
def Code.symbol (c : Code) : Reads Nat := c.symbolFrom c.counts 0 0 0

/-- The code for bytes and lengths that needs no description. -/
def fixedLiterals : Code :=
  .ofLengths (List.replicate 144 8 ++ List.replicate 112 9 ++ List.replicate 24 7 ++
    List.replicate 8 8)

/-- The code for distances that needs no description. -/
def fixedDistances : Code := .ofLengths (List.replicate 30 5)

/-! ## Descriptions of codes -/

/-- The order in which the lengths of the code for lengths stand. -/
def lengthOrder : List Nat := [16, 17, 18, 0, 8, 7, 9, 6, 10, 5, 11, 4, 12, 3, 13, 2, 14, 1, 15]

/-- Some numbers of three bits. -/
def triples : Nat → Reads (List Nat)
  | 0, bits => .ok ([], bits)
  | n + 1, bits => do
    let (x, bits) ← number 3 bits
    let (rest, bits) ← triples n bits
    return (x :: rest, bits)

/-- `count` lengths in the code `c`. The lengths so far are given last first. The fuel bounds the number of
steps. -/
def lengthsFrom (c : Code) (count : Nat) : Nat → List Nat → Reads (List Nat)
  | 0, _, _ => .error .incomplete
  | fuel + 1, found, bits =>
    if count ≤ found.length then
      if found.length = count then .ok (found.reverse, bits) else .error .corrupt
    else do
      let (s, bits) ← c.symbol bits
      if s < 16 then lengthsFrom c count fuel (s :: found) bits
      else if s = 16 then
        match found with
        | [] => throw .corrupt
        | last :: _ =>
          let (n, bits) ← number 2 bits
          lengthsFrom c count fuel (List.replicate (3 + n) last ++ found) bits
      else
        let (n, bits) ← if s = 17 then number 3 bits else number 7 bits
        let n := if s = 17 then 3 + n else 11 + n
        lengthsFrom c count fuel (List.replicate n 0 ++ found) bits

/-- The codes for bytes and lengths and for distances that a block describes. -/
def describedCodes : Reads (Code × Code) := fun bits ↦ do
  let (literals, bits) ← number 5 bits
  let (distances, bits) ← number 5 bits
  let (lengths, bits) ← number 4 bits
  let (literals, distances) := (literals + 257, distances + 1)
  if 286 < literals ∨ 30 < distances then throw .corrupt
  let (found, bits) ← triples (lengths + 4) bits
  let given := lengthOrder.zip found
  let c := Code.ofLengths ((List.range 19).map fun s ↦ (given.lookup s).getD 0)
  if !c.isFit false then throw .corrupt
  let (all, bits) ← lengthsFrom c (literals + distances) (bits.length + 1) [] bits
  let (l, d) := (Code.ofLengths (all.take literals), Code.ofLengths (all.drop literals))
  if l.isFit true && d.isFit true then return ((l, d), bits) else throw .corrupt

/-! ## Blocks -/

/-- Least length and number of further bits of the symbols from 257 on. -/
def lengthBases : Array (Nat × Nat) := #[
  (3, 0), (4, 0), (5, 0), (6, 0), (7, 0), (8, 0), (9, 0), (10, 0), (11, 1), (13, 1), (15, 1), (17, 1),
  (19, 2), (23, 2), (27, 2), (31, 2), (35, 3), (43, 3), (51, 3), (59, 3), (67, 4), (83, 4), (99, 4),
  (115, 4), (131, 5), (163, 5), (195, 5), (227, 5), (258, 0)]

/-- Least distance and number of further bits of the symbols for distances. -/
def distanceBases : Array (Nat × Nat) := #[
  (1, 0), (2, 0), (3, 0), (4, 0), (5, 1), (7, 1), (9, 2), (13, 2), (17, 3), (25, 3), (33, 4), (49, 4),
  (65, 5), (97, 5), (129, 6), (193, 6), (257, 7), (385, 7), (513, 8), (769, 8), (1025, 9), (1537, 9),
  (2049, 10), (3073, 10), (4097, 11), (6145, 11), (8193, 12), (12289, 12), (16385, 13), (24577, 13)]

/-- A length or a distance: its least value and further bits. -/
def extended (bases : Array (Nat × Nat)) (s : Nat) : Reads Nat := fun bits ↦
  match bases[s]? with
  | some (base, extra) => do
    let (n, bits) ← number extra bits
    return (base + n, bits)
  | none => .error .corrupt

/-- Data with `n` bytes more, each a copy of the one `distance` places before it. In front of the data stand
zeros. -/
def copy (distance : Nat) : Nat → Array UInt8 → Array UInt8
  | 0, out => out
  | n + 1, out =>
    copy distance n (out.push (if distance ≤ out.size then out.getD (out.size - distance) 0 else 0))

/-- The data of a block of codes behind those of the blocks in front. The fuel bounds the number of
codes. -/
def coded (literals distances : Code) : Nat → Array UInt8 → Reads (Array UInt8)
  | 0, _, _ => .error .incomplete
  | fuel + 1, out, bits => do
    let (s, bits) ← literals.symbol bits
    if s < 256 then coded literals distances fuel (out.push s.toUInt8) bits
    else if s = 256 then return (out, bits)
    else
      let (length, bits) ← extended lengthBases (s - 257) bits
      let (s, bits) ← distances.symbol bits
      let (distance, bits) ← extended distanceBases s bits
      coded literals distances fuel (copy distance length out) bits

/-- Some bytes as they are. -/
def plain : Nat → Array UInt8 → Reads (Array UInt8)
  | 0, out, bits => .ok (out, bits)
  | n + 1, out, bits => do
    let (b, bits) ← number 8 bits
    plain n (out.push b.toUInt8) bits

/-- The data of a stored block behind those of the blocks in front. It begins with the next byte. -/
def stored (out : Array UInt8) : Reads (Array UInt8) := fun bits ↦ do
  let bits := bits.drop (bits.length % 8)
  let (length, bits) ← number 16 bits
  let (complement, bits) ← number 16 bits
  if length + complement = 65535 then plain length out bits else throw .corrupt

/-- The data of one block, `stored` or `coded`, behind those of the blocks in front. -/
def block (out : Array UInt8) : Reads (Array UInt8) := fun bits ↦ do
  let (kind, bits) ← number 2 bits
  if kind = 0 then stored out bits
  else if kind = 1 then coded fixedLiterals fixedDistances (bits.length + 1) out bits
  else if kind = 2 then
    let ((literals, distances), bits) ← describedCodes bits
    coded literals distances (bits.length + 1) out bits
  else throw .corrupt

/-- The data of the blocks up to the last one, each of which says whether it is that. The fuel bounds the
number of blocks. -/
def blocks : Nat → Array UInt8 → Reads (Array UInt8)
  | 0, _, _ => .error .incomplete
  | fuel + 1, out, bits => do
    let (last, bits) ← number 1 bits
    let (out, bits) ← block out bits
    if last = 1 then return (out, bits) else blocks fuel out bits

/-- The data packed in some bytes, by `blocks`, and the bytes behind them. -/
def unpack (bytes : List UInt8) : Except Corruption (List UInt8 × List UInt8) := do
  let bits := bitsOfAll bytes
  let (out, left) ← blocks (bits.length + 1) #[] bits
  return (out.toList, bytes.drop (bytes.length - left.length / 8))

end Gazette.Inflate
