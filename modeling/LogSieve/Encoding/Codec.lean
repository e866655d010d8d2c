import LogSieve.Encoding.Utf8
import LogSieve.Text.Basic

/-!
# Codecs

A codec turns the bytes of a file into text.  Bytes that it cannot read are
replaced, left out, or end the reading, as the caller wishes.

Bytes arrive in blocks.  When malformed bytes end the reading, the block that
they are in is lost as a whole, and what came before it has been read.
-/

namespace LogSieve.Encoding

/-- How the bytes of a file stand for text. -/
inductive Codec where
  | utf8
  /-- UTF-8 with an optional signature at the start. -/
  | utf8Signed
  | latin1
  | ascii
  deriving DecidableEq

/-- What happens to bytes that stand for no text. -/
inductive OnMalformed where
  | replace
  | ignore
  | refuse
  deriving DecidableEq

/-- The codec of a name. -/
def Codec.ofName? (name : Text) : Option Codec :=
  [("utf-8".toList, utf8), ("utf-8-sig".toList, utf8Signed), ("latin-1".toList, latin1),
    ("ascii".toList, ascii)].lookup name

/-- The state of a decoder: where it stands, and what it has decoded, the latest first. -/
structure Decoder where
  state : Utf8State
  decoded : List Decoded

/-- A decoder at the start of a file. -/
def Decoder.start : Decoder := ⟨.between, []⟩

/-- Reads one byte. -/
def Codec.feed (codec : Codec) (decoder : Decoder) (byte : UInt8) : Decoder :=
  let code := byte.toNat
  match codec with
  | utf8 | utf8Signed =>
    let (state, decoded) := decoder.state.step code
    ⟨state, decoded.reverseAux decoder.decoded⟩
  | latin1 => ⟨.between, some (Char.ofNat code) :: decoder.decoded⟩
  | ascii =>
    ⟨.between, (if code < 128 then some (Char.ofNat code) else none) :: decoder.decoded⟩

/-- Reads the end of the bytes. -/
def Decoder.finish (decoder : Decoder) : Decoder :=
  ⟨.between, decoder.state.finish.reverseAux decoder.decoded⟩

/-- The character that stands in for malformed bytes. -/
def replacement : Char := '\uFFFD'

/-- The text of what has been decoded, given the latest first. -/
def textOfDecoded (onMalformed : OnMalformed) (decoded : List Decoded) : Text :=
  decoded.foldl (fun text piece =>
    match piece with
    | some c => c :: text
    | none => if onMalformed = .replace then replacement :: text else text) []

/-- The signature at the start of a file in UTF-8. -/
def signature : Bytes := [0xEF, 0xBB, 0xBF]

/-- The blocks without their first bytes. -/
def dropBytes : Nat → List Bytes → List Bytes
  | _, [] => []
  | count, block :: rest =>
    if count < block.length then block.drop count :: rest
    else dropBytes (count - block.length) rest

/-- The blocks without the signature.  A part of the signature alone counts as one. -/
def dropSignature (blocks : List Bytes) : List Bytes :=
  let start := ((blocks.take 3).flatten).take 3
  if start = signature then dropBytes 3 blocks
  else if start.length < 3 ∧ start.isPrefixOf signature then []
  else blocks

/-- The blocks that a codec reads. -/
def Codec.content (codec : Codec) (blocks : List Bytes) : List Bytes :=
  if codec = utf8Signed then dropSignature blocks else blocks

/-- The texts of blocks up to the first one with malformed bytes; whether there is such a block,
and the state of the decoder at the end.  The latest text comes first. -/
def Codec.readBlocks (codec : Codec) (state : Utf8State) (texts : List Text) :
    List Bytes → List Text × Utf8State × Bool
  | [] => (texts, state, false)
  | block :: rest =>
    let after := block.foldl codec.feed ⟨state, []⟩
    if after.decoded.contains none then (texts, state, true)
    else codec.readBlocks after.state (textOfDecoded .refuse after.decoded :: texts) rest

/-- The text of blocks, and whether malformed bytes ended it.  If the blocks are not `whole`, more
bytes were to come, and an unfinished character at the end is not malformed. -/
def Codec.text (codec : Codec) (onMalformed : OnMalformed) (whole : Bool) (blocks : List Bytes) :
    Text × Bool :=
  let blocks := codec.content blocks
  match onMalformed with
  | .refuse =>
    let (texts, state, refused) := codec.readBlocks .between [] blocks
    (texts.reverse.flatten, refused || (whole && state != .between))
  | _ =>
    let read := blocks.flatten.foldl codec.feed .start
    let read := if whole then read.finish else read
    (textOfDecoded onMalformed read.decoded, false)

end LogSieve.Encoding
