/-!
# Corrupt byte streams

What can be wrong with a compressed stream: `Corruption`.
-/

namespace Gazette.Bytes

/-- Why a compressed stream cannot be unpacked. -/
inductive Corruption
  /-- The stream ends within its header or its trailer. -/
  | unexpectedEnd
  /-- The packed data end too early. -/
  | incomplete
  /-- The packed data break the rules of their format. -/
  | corrupt
  /-- The header is none of a compressed stream. -/
  | header
  /-- A name or a comment in the header is too long. -/
  | longField
  /-- A checksum or a length does not fit. -/
  | checksum
deriving DecidableEq, Repr

def Corruption.message : Corruption → String
  | unexpectedEnd => "unexpected end of file"
  | incomplete => "incomplete deflate stream"
  | corrupt => "corrupt deflate stream"
  | header => "invalid gzip header"
  | longField => "gzip header field too long"
  | checksum => "corrupt gzip stream does not have a matching checksum"

end Gazette.Bytes
