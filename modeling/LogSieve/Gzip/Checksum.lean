import LogSieve.Encoding.Utf8

/-!
# Checksums

The checksum of compressed data is the remainder of a polynomial division by the
reversed polynomial `0xEDB88320`, bit by bit.
-/

namespace LogSieve.Gzip

open Encoding (Bytes)

/-- One bit of the division. -/
def checksumBit (remainder : UInt32) : UInt32 :=
  if remainder &&& 1 = 1 then (remainder >>> 1) ^^^ 0xEDB88320 else remainder >>> 1

/-- One byte of the division. -/
def checksumByte (remainder : UInt32) (byte : UInt8) : UInt32 :=
  let mixed := remainder ^^^ byte.toUInt32
  checksumBit (checksumBit (checksumBit (checksumBit
    (checksumBit (checksumBit (checksumBit (checksumBit mixed)))))))

/-- The checksum of some bytes. -/
def checksum (bytes : Bytes) : UInt32 := (bytes.foldl checksumByte 0xFFFFFFFF) ^^^ 0xFFFFFFFF

end LogSieve.Gzip
