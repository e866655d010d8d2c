import LogSieve.Encoding.Codec
import LogSieve.Encoding.Lines
import LogSieve.FaultKind
import LogSieve.Text.Quoted

/-!
# Contents of files

A file offers blocks of bytes, and perhaps a fault after them that ends the
reading.  As text, it offers the text of these blocks; a fault makes the text
incomplete, and only the lines whose end was seen before it are known.
-/

namespace LogSieve.Store

open Encoding (Bytes Codec OnMalformed)

/-- What is wrong with a file that is named for a compressed one. -/
inductive GzipFault where
  /-- A member does not start as one, but with these bytes. -/
  | start (bytes : Bytes)
  | method
  /-- The checksum behind the data is another than that of the data. -/
  | checksum (written computed : Nat)
  | length
  deriving DecidableEq

/-- Why the reading of a file ends before its end. -/
inductive ReadFault where
  /-- The file is not what it is named for, or a check of its data fails. -/
  | notGzip (fault : GzipFault)
  /-- Compressed data ends too early. -/
  | truncated
  /-- Compressed data breaks the format in this way. -/
  | corrupt (reason : Text)
  /-- The bytes stand for no text. -/
  | undecodable
  deriving DecidableEq

/-- The blocks of a file, and the fault that ends them. -/
structure Contents where
  blocks : List Bytes
  fault : Option ReadFault

/-- The greatest number of bytes of a block. -/
def blockSize : Nat := 8192

/-- The state of cutting bytes into blocks: the full blocks and the last one, the latest block and
byte first, and the room left in the last block. -/
structure Cutting where
  full : List Bytes
  last : Bytes
  room : Nat

/-- Puts one byte into the last block. -/
def Cutting.step (cutting : Cutting) (byte : UInt8) : Cutting :=
  if cutting.room ≤ 1 then ⟨(byte :: cutting.last).reverse :: cutting.full, [], blockSize⟩
  else ⟨cutting.full, byte :: cutting.last, cutting.room - 1⟩

/-- Bytes in blocks. -/
def blocksOf (bytes : Bytes) : List Bytes :=
  let cutting := bytes.foldl Cutting.step ⟨[], [], blockSize⟩
  let blocks :=
    if cutting.last.isEmpty then cutting.full else cutting.last.reverse :: cutting.full
  blocks.reverse

/-- The contents of a file that is read as it is. -/
def Contents.ofBytes (bytes : Bytes) : Contents := ⟨blocksOf bytes, none⟩

/-- The text of a file, and the fault that ends it. -/
def Contents.text (codec : Codec) (onMalformed : OnMalformed) (contents : Contents) :
    Text × Option ReadFault :=
  let (text, refused) := codec.text onMalformed contents.fault.isNone contents.blocks
  (text, if refused then some .undecodable else contents.fault)

/-- The lines of a file, and the fault that ends them. -/
def Contents.lines (codec : Codec) (onMalformed : OnMalformed) (contents : Contents) :
    List Text × Option ReadFault :=
  let (text, fault) := contents.text codec onMalformed
  (Encoding.linesOfText fault.isNone text, fault)

/-- The kind of a fault of a file. -/
def ReadFault.kind : ReadFault → FaultKind
  | notGzip _ => .badGzip
  | truncated => .endOfFile
  | corrupt _ => .decompression
  | undecodable => .decoding

/-- What is said of a file that is no compressed one. -/
def GzipFault.message : GzipFault → Text
  | start bytes => "Not a gzipped file (".toList ++ Text.quotedBytes bytes ++ [')']
  | method => "Unknown compression method".toList
  | checksum written computed =>
    "CRC check failed 0x".toList ++ Text.hexadecimal 1 written ++ " != 0x".toList ++
      Text.hexadecimal 1 computed
  | length => "Incorrect length of data produced".toList

/-- What is said of a file that cannot be read to its end, if anything. -/
def ReadFault.message? : ReadFault → Option Text
  | notGzip fault => some fault.message
  | truncated => some "Compressed file ended before the end-of-stream marker was reached".toList
  | corrupt reason => some ("Error -3 while decompressing data: ".toList ++ reason)
  | undecodable => none

end LogSieve.Store
