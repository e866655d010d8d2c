import LogSieve.Encoding.Utf8
import LogSieve.Text.Basic

/-!
# Unpacking deflated data

Deflated data is a sequence of blocks of bits.  A block holds bytes as they are,
or symbols in a prefix code: literal bytes, and references to bytes that came
before.  The code is a fixed one or is described at the start of the block by
the lengths of its words.

What was unpacked before a fault is kept.
-/

namespace LogSieve.Gzip

open Encoding (Bytes)

/-- Why deflated data could not be unpacked. -/
inductive InflateFault where
  /-- The data ends too early. -/
  | truncated
  /-- The data breaks the format in this way. -/
  | corrupt (reason : Text)
  deriving DecidableEq

/-- The state of unpacking: the data, the position in bits, and the bytes unpacked so far. -/
structure InflateState where
  input : Array UInt8
  position : Nat
  output : Array UInt8

/-- A step of unpacking; what was unpacked survives a fault. -/
abbrev Inflate := ExceptT InflateFault (StateM InflateState)

namespace Inflate

/-- Data that breaks the format. -/
def corrupt {α : Type} (reason : String) : Inflate α := throw (.corrupt reason.toList)

/-- The next bit. -/
def bit : Inflate Nat := do
  let state ← get
  match state.input[state.position / 8]? with
  | some byte =>
    set { state with position := state.position + 1 }
    return byte.toNat >>> (state.position % 8) % 2
  | none => throw .truncated

/-- A number of the given width, lowest bit first. -/
def bits : Nat → Inflate Nat
  | 0 => return 0
  | width + 1 => do
    let low ← bit
    return low + 2 * (← bits width)

/-- Adds a byte to the output. -/
def emit (byte : UInt8) : Inflate Unit :=
  modify fun state => { state with output := state.output.push byte }

/-! ## Prefix codes -/

/-- A prefix code: how many words have each length, and the symbols in the order of their words. -/
structure Code where
  counts : List Nat
  symbols : Array Nat

/-- The greatest length of a word. -/
def maxLength : Nat := 15

/-- The code in which the symbol `i` has a word of length `lengths[i]`, and no word if that is
zero. -/
def Code.ofLengths (lengths : List Nat) : Code where
  counts := (List.range maxLength).map fun i => lengths.count (i + 1)
  symbols := ((List.range maxLength).flatMap fun i =>
    (lengths.zipIdx.filter fun (length, _) => length == i + 1).map Prod.snd).toArray

/-- How many words of the greatest length are left over, or `none` if there are too many words. -/
def spare : Nat → List Nat → Option Nat
  | left, [] => some left
  | left, count :: rest => if count ≤ 2 * left then spare (2 * left - count) rest else none

/-- Whether a code uses up all words; a code of one word of length one, or of none, may leave some
if `mayLack`. -/
def Code.isUsable (mayLack : Bool) (code : Code) : Bool :=
  match spare 1 code.counts with
  | none => false
  | some 0 => true
  | some _ => mayLack && (code.counts.drop 1).all (· == 0)

/-- The symbol of the next word; `counts` are those of the lengths to come.  The word so far is
`word`, the first word of its length `first`, and that word's symbol has index `index`. -/
def symbolAt (symbols : Array Nat) : Nat → Nat → Nat → List Nat → Inflate (Option Nat)
  | _, _, _, [] => return none
  | word, first, index, count :: rest => do
    let word := word + (← bit)
    if word < first + count then return symbols[index + (word - first)]?
    else symbolAt symbols (2 * word) (2 * (first + count)) (index + count) rest

/-- The next symbol of a code. -/
def Code.symbol (code : Code) : Inflate (Option Nat) := symbolAt code.symbols 0 0 0 code.counts

/-! ## Literals and references -/

/-- The least length and the number of further bits of each length symbol. -/
def lengthTable : Array (Nat × Nat) :=
  #[(3, 0), (4, 0), (5, 0), (6, 0), (7, 0), (8, 0), (9, 0), (10, 0), (11, 1), (13, 1), (15, 1),
    (17, 1), (19, 2), (23, 2), (27, 2), (31, 2), (35, 3), (43, 3), (51, 3), (59, 3), (67, 4),
    (83, 4), (99, 4), (115, 4), (131, 5), (163, 5), (195, 5), (227, 5), (258, 0)]

/-- The least distance and the number of further bits of each distance symbol. -/
def distanceTable : Array (Nat × Nat) :=
  #[(1, 0), (2, 0), (3, 0), (4, 0), (5, 1), (7, 1), (9, 2), (13, 2), (17, 3), (25, 3), (33, 4),
    (49, 4), (65, 5), (97, 5), (129, 6), (193, 6), (257, 7), (385, 7), (513, 8), (769, 8),
    (1025, 9), (1537, 9), (2049, 10), (3073, 10), (4097, 11), (6145, 11), (8193, 12), (12289, 12),
    (16385, 13), (24577, 13)]

/-- Repeats bytes of the output. -/
def copy (distance : Nat) : Nat → Inflate Unit
  | 0 => return ()
  | length + 1 => do
    let output := (← get).output
    emit (output.getD (output.size - distance) 0)
    copy distance length

/-- A reference to earlier bytes, after its length symbol. -/
def reference (distances : Code) (symbol : Nat) : Inflate Unit := do
  match lengthTable[symbol - 257]? with
  | none => corrupt "invalid literal/length code"
  | some (base, extra) =>
    let length := base + (← bits extra)
    match (← distances.symbol).bind (distanceTable[·]?) with
    | none => corrupt "invalid distance code"
    | some (base, extra) =>
      let distance := base + (← bits extra)
      if distance > (← get).output.size then corrupt "invalid distance too far back"
      else copy distance length

/-- The symbols of a block up to its end.  Every symbol takes a bit. -/
def symbols (literals distances : Code) : Nat → Inflate Unit
  | 0 => throw .truncated
  | fuel + 1 => do
    match ← literals.symbol with
    | none => corrupt "invalid literal/length code"
    | some symbol =>
      if symbol = 256 then return ()
      else if symbol < 256 then
        emit (UInt8.ofNat symbol)
        symbols literals distances fuel
      else
        reference distances symbol
        symbols literals distances fuel

/-! ## Blocks -/

/-- Bytes that are stored as they are. -/
def storedBytes : Nat → Inflate Unit
  | 0 => return ()
  | count + 1 => do
    let state ← get
    match state.input[state.position / 8]? with
    | some byte =>
      set { state with position := state.position + 8, output := state.output.push byte }
      storedBytes count
    | none => throw .truncated

/-- A block of stored bytes, which starts at a whole byte. -/
def storedBlock : Inflate Unit := do
  modify fun state => { state with position := (state.position + 7) / 8 * 8 }
  let length ← bits 16
  let complement ← bits 16
  if length + complement = 65535 then storedBytes length
  else corrupt "invalid stored block lengths"

/-- The fixed code of literals and lengths. -/
def fixedLiterals : Code :=
  .ofLengths (List.replicate 144 8 ++ List.replicate 112 9 ++ List.replicate 24 7 ++
    List.replicate 8 8)

/-- The fixed code of distances. -/
def fixedDistances : Code := .ofLengths (List.replicate 30 5)

/-- The order in which the lengths of the code of lengths are given. -/
def lengthOrder : List Nat := [16, 17, 18, 0, 8, 7, 9, 6, 10, 5, 11, 4, 12, 3, 13, 2, 14, 1, 15]

/-- Numbers of three bits. -/
def triples : Nat → Inflate (List Nat)
  | 0 => return []
  | count + 1 => do
    let first ← bits 3
    return first :: (← triples count)

/-- Lengths of words up to the given number; the latest comes first.  Every step adds a length. -/
def wordLengths (code : Code) (count : Nat) : Nat → List Nat → Inflate (List Nat)
  | 0, lengths => return lengths
  | fuel + 1, lengths => do
    if lengths.length ≥ count then return lengths
    else
      let again (length least width : Nat) : Inflate (List Nat) := do
        let times := least + (← bits width)
        if lengths.length + times > count then corrupt "invalid bit length repeat"
        else wordLengths code count fuel (List.replicate times length ++ lengths)
      match ← code.symbol with
      | none => corrupt "invalid code lengths set"
      | some 16 =>
        match lengths with
        | [] => corrupt "invalid bit length repeat"
        | last :: _ => again last 3 2
      | some 17 => again 0 3 3
      | some 18 => again 0 11 7
      | some length => wordLengths code count fuel (length :: lengths)

/-- The two codes that a block describes. -/
def describedCodes : Inflate (Code × Code) := do
  let literalCount := 257 + (← bits 5)
  let distanceCount := 1 + (← bits 5)
  let givenCount := 4 + (← bits 4)
  if literalCount > 286 ∨ distanceCount > 30 then
    corrupt "too many length or distance symbols"
  else
    let given := lengthOrder.zip (← triples givenCount)
    let lengthCode := Code.ofLengths ((List.range 19).map fun i => (given.lookup i).getD 0)
    if ¬ lengthCode.isUsable false then corrupt "invalid code lengths set"
    else
      let count := literalCount + distanceCount
      let lengths := (← wordLengths lengthCode count count []).reverse
      let literals := Code.ofLengths (lengths.take literalCount)
      let distances := Code.ofLengths (lengths.drop literalCount)
      if lengths.getD 256 0 = 0 then corrupt "invalid code -- missing end-of-block"
      else if ¬ literals.isUsable true then corrupt "invalid literal/lengths set"
      else if ¬ distances.isUsable true then corrupt "invalid distances set"
      else return (literals, distances)

/-- The blocks of the data up to the last one.  Every block takes a bit. -/
def blocks : Nat → Inflate Unit
  | 0 => throw .truncated
  | fuel + 1 => do
    let last ← bit
    let length := (← get).input.size * 8
    match ← bits 2 with
    | 0 => storedBlock
    | 1 => symbols fixedLiterals fixedDistances (length + 1)
    | 2 =>
      let (literals, distances) ← describedCodes
      symbols literals distances (length + 1)
    | _ => corrupt "invalid block type"
    if last = 1 then return () else blocks fuel

end Inflate

/-- The bytes that were unpacked, and the number of bytes that were read or a fault. -/
def inflate (data : Array UInt8) : Array UInt8 × Except InflateFault Nat :=
  let (result, state) := (Inflate.blocks (data.size * 8 + 1)).run.run ⟨data, 0, #[]⟩
  (state.output, result.map fun _ => (state.position + 7) / 8)

end LogSieve.Gzip
