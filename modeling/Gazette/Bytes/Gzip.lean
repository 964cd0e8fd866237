import Gazette.Bytes.Crc32
import Gazette.Bytes.Inflate

/-!
# Gzip

A stream of packed data between a `header` and a trailer: `Gzip.unpack`. The trailer holds check and length of
the data; what stands behind it is ignored.
-/

namespace Gazette.Gzip

open Bytes (Corruption)

/-- A reader of bytes, with what is left of them. -/
abbrev Reads (α : Type) := List UInt8 → Except Corruption (α × List UInt8)

/-- Some bytes. -/
def take (n : Nat) : Reads (List UInt8) := fun bytes ↦
  if bytes.length < n then .error .unexpectedEnd else .ok (bytes.take n, bytes.drop n)

/-- The number of some bytes, the lowest first. -/
def valueOf : List UInt8 → Nat
  | [] => 0
  | b :: rest => b.toNat + 256 * valueOf rest

/-- The greatest length of a name or a comment. -/
def fieldLimit : Nat := 65535

/-- A field that ends with a zero, with that. -/
def field : Reads (List UInt8) := fun bytes ↦
  let text := bytes.takeWhile (· != 0)
  if fieldLimit < text.length then .error .longField
  else take (text.length + 1) bytes

/-- A part of a header that is there if `flag` is. -/
def part (flag : Bool) (read : Reads (List UInt8)) : Reads (List UInt8) := fun bytes ↦
  if flag then read bytes else .ok ([], bytes)

/-- Data of other programs, with their length in front. -/
def extra : Reads (List UInt8) := fun bytes ↦ do
  let (length, bytes) ← take 2 bytes
  let (data, bytes) ← take (valueOf length) bytes
  return (length ++ data, bytes)

/-- Whether a header can be that of a stream: two magic bytes, the method, and no reserved flag. -/
def isHeader : List UInt8 → Bool
  | a :: b :: method :: flags :: _ => a == 0x1F && b == 0x8B && method == 8 && flags.toNat < 32
  | _ => false

/-- The header: fixed bytes that pass `isHeader`, and the parts that its flags name. -/
def header : Reads Unit := fun bytes ↦ do
  let (fixed, bytes) ← take 10 bytes
  if !isHeader fixed then throw .header
  let flag (i : Nat) : Bool := (fixed.getD 3 0).toNat.testBit i
  let (other, bytes) ← part (flag 2) extra bytes
  let (name, bytes) ← part (flag 3) field bytes
  let (comment, bytes) ← part (flag 4) field bytes
  if flag 1 then
    let (check, bytes) ← take 2 bytes
    if valueOf check = (Crc32.check (fixed ++ other ++ name ++ comment)).toNat % 65536 then
      return ((), bytes)
    else throw .checksum
  else return ((), bytes)

/-- The data of a stream, by `Inflate.unpack` behind the `header`, with the check and the length that the trailer
says. -/
def unpack (bytes : List UInt8) : Except Corruption (List UInt8) := do
  let ((), bytes) ← header bytes
  let (data, bytes) ← Inflate.unpack bytes
  let (check, bytes) ← take 4 bytes
  let (length, _) ← take 4 bytes
  if valueOf check = (Crc32.check data).toNat ∧ valueOf length = data.length % Nat.pow 2 32 then
    return data
  else throw .checksum

end Gazette.Gzip
