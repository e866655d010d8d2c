import LogSieve.Encoding.Codec

/-!
# What is written in UTF-8 is read back

The text of any bytes is that of the pieces decoded from them, one after the other,
however the bytes are cut into blocks (`text_eq_textOfBytes`).  The decoder reads the
bytes of a character and is between two characters again (`foldl_feed_utf8Bytes`); so
it reads back every text (`textOfBytes_flatMap`).  The first byte of a long character
narrows the range of the second one; that the second byte lies in this range is what
the bounds on the length of a character, and the gap of the surrogates, are there for.
-/

namespace LogSieve.Encoding

namespace Utf8State

/-! ## First bytes -/

theorem first_of_lt {n : Nat} (h : n < 0x80) : first n = (between, [some (Char.ofNat n)]) := by
  simp [first, h]

theorem first_of_two {n : Nat} (hlow : 0xC2 ≤ n) (hhigh : n < 0xE0) :
    first n = (inside 1 0x80 0xBF (n - 0xC0), []) := by
  unfold first
  rw [if_neg (by omega), if_neg (by omega), if_pos hhigh]

theorem first_of_three {n : Nat} (hlow : 0xE0 ≤ n) (hhigh : n < 0xF0) :
    first n = (inside 2 (if n = 0xE0 then 0xA0 else 0x80) (if n = 0xED then 0x9F else 0xBF)
      (n - 0xE0), []) := by
  unfold first
  rw [if_neg (by omega), if_neg (by omega), if_neg (by omega), if_pos hhigh]

theorem first_of_four {n : Nat} (hlow : 0xF0 ≤ n) (hhigh : n < 0xF5) :
    first n = (inside 3 (if n = 0xF0 then 0x90 else 0x80) (if n = 0xF4 then 0x8F else 0xBF)
      (n - 0xF0), []) := by
  unfold first
  rw [if_neg (by omega), if_neg (by omega), if_neg (by omega), if_neg (by omega), if_pos hhigh]

/-! ## Further bytes -/

theorem step_inside {owed low high value n : Nat} (howed : 1 < owed) (hlow : low ≤ n)
    (hhigh : n ≤ high) :
    (inside owed low high value).step n =
      (inside (owed - 1) 0x80 0xBF (value * 64 + (n - 0x80)), []) := by
  simp [step, hlow, hhigh, howed]

theorem step_last {low high value n : Nat} (hlow : low ≤ n) (hhigh : n ≤ high) :
    (inside 1 low high value).step n =
      (between, [some (Char.ofNat (value * 64 + (n - 0x80)))]) := by
  simp [step, hlow, hhigh]

/-- A byte out of the range ends the unfinished character and is a first byte. -/
theorem step_out_of_range {owed low high value n : Nat} (h : ¬ (low ≤ n ∧ n ≤ high)) :
    (inside owed low high value).step n = ((first n).1, none :: (first n).2) := by
  simp [step, h]

end Utf8State

open Utf8State (between)

/-! ## Characters -/

theorem feed_ofNat (state : Utf8State) (decoded : List Decoded) {n : Nat} (h : n < 256) :
    Codec.utf8.feed ⟨state, decoded⟩ (UInt8.ofNat n) =
      ⟨(state.step n).1, (state.step n).2.reverseAux decoded⟩ := by
  have hcode : (UInt8.ofNat n).toNat = n := by
    rw [UInt8.toNat_ofNat']
    omega
  simp only [Codec.feed, hcode]

theorem utf8Bytes_eq (c : Char) :
    utf8Bytes c =
      if c.toNat ≤ 0x7F then [UInt8.ofNat c.toNat]
      else if c.toNat ≤ 0x7FF then
        [UInt8.ofNat (c.toNat / 64 % 32 + 0xC0), UInt8.ofNat (c.toNat % 64 + 0x80)]
      else if c.toNat ≤ 0xFFFF then
        [UInt8.ofNat (c.toNat / 4096 % 16 + 0xE0), UInt8.ofNat (c.toNat / 64 % 64 + 0x80),
          UInt8.ofNat (c.toNat % 64 + 0x80)]
      else
        [UInt8.ofNat (c.toNat / 262144 % 8 + 0xF0), UInt8.ofNat (c.toNat / 4096 % 64 + 0x80),
          UInt8.ofNat (c.toNat / 64 % 64 + 0x80), UInt8.ofNat (c.toNat % 64 + 0x80)] :=
  rfl

/-- The value of a character is in one of the two ranges around the surrogates. -/
theorem toNat_bounds (c : Char) :
    c.toNat < 0xD800 ∨ (0xDFFF < c.toNat ∧ c.toNat < 0x110000) := c.valid

/-- Between two characters the decoder reads the bytes of a character as this character. -/
theorem foldl_feed_utf8Bytes (c : Char) (decoded : List Decoded) :
    (utf8Bytes c).foldl Codec.utf8.feed ⟨between, decoded⟩ = ⟨between, some c :: decoded⟩ := by
  have hbounds := toNat_bounds c
  have hchar : ∀ n, n = c.toNat → (some (Char.ofNat n) : Decoded) = some c := by
    rintro n rfl
    rw [Char.ofNat_toNat]
  rw [utf8Bytes_eq]
  split
  · -- one byte, which is the character
    rw [List.foldl_cons, List.foldl_nil, feed_ofNat _ _ (by omega), Utf8State.step,
      Utf8State.first_of_lt (by omega), hchar _ rfl]
    rfl
  · split
    · -- two bytes
      rw [List.foldl_cons, List.foldl_cons, List.foldl_nil, feed_ofNat _ _ (by omega),
        feed_ofNat _ _ (by omega), Utf8State.step,
        Utf8State.first_of_two (by omega) (by omega),
        Utf8State.step_last (by omega) (by omega), hchar _ (by omega)]
      rfl
    · split
      · -- three bytes; behind 0xE0 the second one is not low, since the value passes 0x7FF, and
        -- behind 0xED it is not high, since the value is no surrogate
        rw [List.foldl_cons, List.foldl_cons, List.foldl_cons, List.foldl_nil,
          feed_ofNat _ _ (by omega), feed_ofNat _ _ (by omega), feed_ofNat _ _ (by omega),
          Utf8State.step, Utf8State.first_of_three (by omega) (by omega),
          Utf8State.step_inside (by omega) (by split <;> omega) (by split <;> omega),
          Utf8State.step_last (by omega) (by omega), hchar _ (by omega)]
        rfl
      · -- four bytes; behind 0xF0 and 0xF4 the second one keeps the value between 0xFFFF and 0x110000
        rw [List.foldl_cons, List.foldl_cons, List.foldl_cons, List.foldl_cons, List.foldl_nil,
          feed_ofNat _ _ (by omega), feed_ofNat _ _ (by omega), feed_ofNat _ _ (by omega),
          feed_ofNat _ _ (by omega), Utf8State.step,
          Utf8State.first_of_four (by omega) (by omega),
          Utf8State.step_inside (by omega) (by split <;> omega) (by split <;> omega),
          Utf8State.step_inside (by omega) (by omega) (by omega),
          Utf8State.step_last (by omega) (by omega), hchar _ (by omega)]
        rfl

/-! ## Texts -/

theorem foldl_feed_flatMap (text : Text) (decoded : List Decoded) :
    (text.flatMap utf8Bytes).foldl Codec.utf8.feed ⟨between, decoded⟩ =
      ⟨between, (text.map some).reverseAux decoded⟩ := by
  induction text generalizing decoded with
  | nil => rfl
  | cons c rest ih =>
      rw [List.flatMap_cons, List.foldl_append, foldl_feed_utf8Bytes, ih]
      rfl

/-- The text that a decoded piece stands for. -/
def textOfPiece (onMalformed : OnMalformed) : Decoded → Text
  | some c => [c]
  | none => if onMalformed = .replace then [replacement] else []

/-- The pieces that are decoded from bytes and their end, in order. -/
def decodedFrom (state : Utf8State) : Bytes → List Decoded
  | [] => state.finish
  | byte :: rest => (state.step byte.toNat).2 ++ decodedFrom (state.step byte.toNat).1 rest

/-- The text of bytes in UTF-8. -/
def textOfBytes (onMalformed : OnMalformed) (bytes : Bytes) : Text :=
  (decodedFrom between bytes).flatMap (textOfPiece onMalformed)

/-- What the decoder has in hand at the end is what was decoded, the latest first. -/
theorem finish_foldl_feed (bytes : Bytes) (state : Utf8State) (decoded : List Decoded) :
    (bytes.foldl Codec.utf8.feed ⟨state, decoded⟩).finish.decoded =
      (decodedFrom state bytes).reverse ++ decoded := by
  induction bytes generalizing state decoded with
  | nil => exact List.reverseAux_eq
  | cons byte rest ih =>
      rw [List.foldl_cons, Codec.feed, ih, List.reverseAux_eq, decodedFrom, List.reverse_append,
        List.append_assoc]

theorem textOfDecoded_eq_flatMap (onMalformed : OnMalformed) (decoded : List Decoded) :
    textOfDecoded onMalformed decoded = decoded.reverse.flatMap (textOfPiece onMalformed) := by
  have general : ∀ kept : Text,
      decoded.foldl (fun text piece =>
        match piece with
        | some c => c :: text
        | none => if onMalformed = .replace then replacement :: text else text) kept =
        decoded.reverse.flatMap (textOfPiece onMalformed) ++ kept := by
    induction decoded with
    | nil => exact fun _ => rfl
    | cons piece rest ih =>
        intro kept
        rw [List.foldl_cons, ih, List.reverse_cons, List.flatMap_append, List.append_assoc,
          List.flatMap_singleton]
        congr 1
        cases piece with
        | some c => rfl
        | none => by_cases hreplace : onMalformed = .replace <;> simp [textOfPiece, hreplace]
  exact (general []).trans (List.append_nil _)

/-- How bytes are cut into blocks does not show in their text. -/
theorem text_eq_textOfBytes {onMalformed : OnMalformed} (h : onMalformed ≠ .refuse)
    (blocks : List Bytes) :
    Codec.utf8.text onMalformed true blocks = (textOfBytes onMalformed blocks.flatten, false) := by
  have hdecoded : (blocks.flatten.foldl Codec.utf8.feed .start).finish.decoded =
      (decodedFrom between blocks.flatten).reverse := by
    rw [Decoder.start, finish_foldl_feed, List.append_nil]
  cases onMalformed with
  | refuse => exact absurd rfl h
  | replace =>
      simp [Codec.text, Codec.content, hdecoded, textOfDecoded_eq_flatMap, textOfBytes]
  | ignore =>
      simp [Codec.text, Codec.content, hdecoded, textOfDecoded_eq_flatMap, textOfBytes]

/-- What is written is read back. -/
theorem textOfBytes_flatMap (onMalformed : OnMalformed) (text : Text) :
    textOfBytes onMalformed (text.flatMap utf8Bytes) = text := by
  have hdecoded : decodedFrom between (text.flatMap utf8Bytes) = text.map some := by
    have hfinish := finish_foldl_feed (text.flatMap utf8Bytes) between []
    rw [foldl_feed_flatMap, List.reverseAux_eq, List.append_nil, List.append_nil] at hfinish
    exact (List.reverse_inj.mp hfinish).symm
  rw [textOfBytes, hdecoded, List.flatMap_map]
  exact List.flatMap_singleton' text

end LogSieve.Encoding
