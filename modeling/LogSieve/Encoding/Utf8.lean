/-!
# UTF-8, byte by byte

The decoder reads one byte at a time.  Between characters a byte is a character
of its own, opens a longer one, or is out of place; inside a character the next
byte must lie in a range that the bytes before it leave open.  A byte that does
not fit ends the unfinished character, which is then malformed as a whole, and
is read again as a first byte.

Since the decoder is a fold over the bytes, decoding one byte string after
another is the same as decoding both together.
-/

namespace LogSieve.Encoding

/-- Bytes of a file. -/
abbrev Bytes := List UInt8

/-- A piece of decoded text: a character, or `none` for a malformed piece. -/
abbrev Decoded := Option Char

/-- Where the decoder stands. -/
inductive Utf8State where
  /-- Between two characters. -/
  | between
  /-- Inside a character: how many bytes it still needs, the range of the next one, and the value of
  the bits so far. -/
  | inside (owed low high value : Nat)
  deriving DecidableEq

namespace Utf8State

/-- What a byte between two characters means. -/
def first (byte : Nat) : Utf8State × List Decoded :=
  if byte < 0x80 then (between, [some (Char.ofNat byte)])
  else if byte < 0xC2 then (between, [none])
  else if byte < 0xE0 then (inside 1 0x80 0xBF (byte - 0xC0), [])
  else if byte < 0xF0 then
    let low := if byte = 0xE0 then 0xA0 else 0x80
    let high := if byte = 0xED then 0x9F else 0xBF
    (inside 2 low high (byte - 0xE0), [])
  else if byte < 0xF5 then
    let low := if byte = 0xF0 then 0x90 else 0x80
    let high := if byte = 0xF4 then 0x8F else 0xBF
    (inside 3 low high (byte - 0xF0), [])
  else (between, [none])

/-- What a byte means, and what it decides. -/
def step (state : Utf8State) (byte : Nat) : Utf8State × List Decoded :=
  match state with
  | between => first byte
  | inside owed low high value =>
    if low ≤ byte ∧ byte ≤ high then
      let value := value * 64 + (byte - 0x80)
      if owed ≤ 1 then (between, [some (Char.ofNat value)])
      else (inside (owed - 1) 0x80 0xBF value, [])
    else
      let (next, decoded) := first byte
      (next, none :: decoded)

/-- What the end of the bytes decides. -/
def finish : Utf8State → List Decoded
  | between => []
  | inside .. => [none]

end Utf8State

/-- The bytes of a character in UTF-8. -/
def utf8Bytes (c : Char) : Bytes := String.utf8EncodeChar c

end LogSieve.Encoding
