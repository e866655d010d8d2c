import LogSieve.Gzip.Checksum
import LogSieve.Gzip.Inflate
import LogSieve.Store.Contents

/-!
# Compressed files

A compressed file is a sequence of members, each with a header, deflated data, a
checksum and a length, perhaps followed by zero bytes.  Its contents are those of
the members one after another.  What the members before a fault hold has been
read, and so have the bytes of the faulty member, as far as whole blocks go when
the data itself is broken.
-/

namespace LogSieve.Gzip

open Encoding (Bytes)
open Store (Contents ReadFault)

/-- Drops bytes that must be there. -/
def skip (count : Nat) (bytes : Bytes) : Except ReadFault Bytes :=
  if bytes.length < count then .error .truncated else .ok (bytes.drop count)

/-- Drops a text that a zero byte ends; the end of the file ends it too. -/
def skipText (bytes : Bytes) : Bytes := (bytes.dropWhile (· != 0)).drop 1

/-- The data after the optional parts of a header, which the flags announce. -/
def skipOptional (flags : UInt8) (bytes : Bytes) : Except ReadFault Bytes := do
  let bytes ←
    if flags &&& 4 = 0 then pure bytes
    else match bytes with
      | low :: high :: rest => skip (low.toNat + 256 * high.toNat) rest
      | _ => .error .truncated
  let bytes := if flags &&& 8 = 0 then bytes else skipText bytes
  let bytes := if flags &&& 16 = 0 then bytes else skipText bytes
  if flags &&& 2 = 0 then .ok bytes else skip 2 bytes

/-- The data after the header of a member. -/
def afterHeader (bytes : Bytes) : Except ReadFault Bytes :=
  match bytes with
  | 0x1F :: 0x8B :: rest =>
    match rest with
    | method :: flags :: more =>
      if more.length < 6 then .error .truncated
      else if method ≠ 8 then .error (.notGzip .method)
      else skipOptional flags (more.drop 6)
    | _ => .error .truncated
  | _ => .error (.notGzip (.start (bytes.take 2)))

/-- The number that four bytes write, lowest byte first. -/
def littleEndian (bytes : Bytes) : Nat :=
  (bytes.take 4).foldr (fun byte value => byte.toNat + 256 * value) 0

/-- Checks what follows the data of a member, and gives the bytes after it and after the zero bytes
behind it. -/
def afterTrailer (data rest : Bytes) : Except ReadFault Bytes :=
  if rest.length < 8 then .error .truncated
  else if littleEndian rest ≠ (checksum data).toNat then
    .error (.notGzip (.checksum (littleEndian rest) (checksum data).toNat))
  else if littleEndian (rest.drop 4) ≠ data.length % Nat.pow 2 32 then .error (.notGzip .length)
  else .ok ((rest.drop 8).dropWhile (· == 0))

/-- The blocks of the members in the given bytes, after the blocks in `before`, the latest of which
comes first.  A member has more than one byte. -/
def members (before : List Bytes) : Nat → Bytes → Contents
  | 0, _ => ⟨before.reverse, none⟩
  | _, [] => ⟨before.reverse, none⟩
  | fuel + 1, bytes =>
    match afterHeader bytes with
    | .error fault => ⟨before.reverse, some fault⟩
    | .ok packed =>
      let (unpacked, result) := inflate packed.toArray
      let data := unpacked.toList
      let known (count : Nat) : List Bytes :=
        (Store.blocksOf (data.take count)).reverseAux before
      match result with
      | .error .truncated => ⟨(known data.length).reverse, some .truncated⟩
      | .error (.corrupt reason) =>
        ⟨(known (data.length / Store.blockSize * Store.blockSize)).reverse, some (.corrupt reason)⟩
      | .ok length =>
        match afterTrailer data (packed.drop length) with
        | .error fault => ⟨(known data.length).reverse, some fault⟩
        | .ok rest => members (known data.length) fuel rest

/-- The contents of a compressed file. -/
def contents (bytes : Bytes) : Contents := members [] (bytes.length + 1) bytes

/-! ## Writing -/

/-- A number in four bytes, lowest byte first. -/
def fourBytes (n : Nat) : Bytes :=
  (List.range 4).map fun i => UInt8.ofNat (n / Nat.pow 256 i % 256)

/-- The greatest number of bytes of a stored block. -/
def storedLimit : Nat := 65535

/-- Bytes as stored blocks; `written` is what has been written, the latest byte first. -/
def stored (written : Bytes) : Nat → Bytes → Bytes
  | 0, _ => written.reverse
  | fuel + 1, bytes =>
    let block := bytes.take storedLimit
    let rest := bytes.drop storedLimit
    let low := UInt8.ofNat (block.length % 256)
    let high := UInt8.ofNat (block.length / 256)
    let last : UInt8 := if rest.isEmpty then 1 else 0
    let written := block.reverseAux ([last, low, high, 255 - low, 255 - high].reverseAux written)
    if rest.isEmpty then written.reverse else stored written fuel rest

/-- A compressed file that holds the given bytes, in stored blocks. -/
def pack (bytes : Bytes) : Bytes :=
  [0x1F, 0x8B, 8, 0, 0, 0, 0, 0, 0, 255] ++ stored [] (bytes.length + 1) bytes ++
    fourBytes (checksum bytes).toNat ++ fourBytes (bytes.length % Nat.pow 2 32)

end LogSieve.Gzip
