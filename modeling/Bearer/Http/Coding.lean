import Bearer.Packed.Brotli.Stream
import Bearer.Packed.Gzip
import Bearer.Packed.Zlib
import Bearer.Packed.Zstd.Frame
import Bearer.Text.Case
/-! How a body is packed on its way. -/

namespace Bearer.Http

inductive Coding
  | plain
  | gzip
  | deflate
  | brotli
  | zstd
  deriving DecidableEq, Repr

namespace Coding

/-- A name in any case, with blanks around it. What is no name of a coding means none. -/
def ofName (s : String) : Coding :=
  match Text.lowerAscii (Text.trim s) with
  | "gzip" => gzip
  | "deflate" => deflate
  | "br" => brotli
  | "zstd" => zstd
  | _ => plain

/-- The bytes that were packed, `most` of them at the most. -/
def unpack? (c : Coding) (most : Nat) (bs : List UInt8) : Option (List UInt8) :=
  match c with
  | plain => if bs.length ≤ most then some bs else none
  | gzip => Packed.Gzip.unpack? most bs
  | deflate => Packed.Zlib.unpack? most bs
  | brotli => Packed.Brotli.unpack? most bs
  | zstd => Packed.Zstd.unpack? most bs

end Coding

end Bearer.Http
