import Gazette.Bytes.Gzip
import Gazette.Text.Quoted

/-!
# Decoders

A `ContentDecoder` turns the bytes of an answer back into those of its page, under a name.
-/

namespace Gazette

/-- A decoder of bytes. -/
structure ContentDecoder where
  /-- Its name. -/
  name : String
  /-- What it does. -/
  decode : List UInt8 → Except Bytes.Corruption (List UInt8)

namespace ContentDecoder

/-- Bytes as they are. -/
def identity : ContentDecoder := ⟨"identity", .ok⟩

/-- Packed bytes, unpacked by `Gzip.unpack`. -/
def gzip : ContentDecoder := ⟨"gzip", Gzip.unpack⟩

/-- A decoder by its name. -/
def display (d : ContentDecoder) : String :=
  "ContentDecoder \x7b name: " ++ Text.quoted d.name ++ " \x7d"

end ContentDecoder

end Gazette
