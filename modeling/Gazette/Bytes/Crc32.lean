/-!
# CRC-32

The cyclic redundancy check of compressed streams: the remainder of the bytes, as a polynomial over two
elements with the lowest bit first, complemented before and after.
-/

namespace Gazette.Crc32

/-- The remainder after one more bit. -/
def shift (r : UInt32) : UInt32 := if r &&& 1 = 1 then (r >>> 1) ^^^ 0xEDB88320 else r >>> 1

/-- The remainder after one more byte, by eight `shift`s. -/
def step (r : UInt32) (b : UInt8) : UInt32 :=
  let r := r ^^^ b.toUInt32
  shift (shift (shift (shift (shift (shift (shift (shift r)))))))

/-- The check of some bytes, by `step` over all of them. -/
def check (bytes : List UInt8) : UInt32 := bytes.foldl step 0xFFFFFFFF ^^^ 0xFFFFFFFF

end Gazette.Crc32
