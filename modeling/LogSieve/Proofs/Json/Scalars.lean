import LogSieve.Proofs.Json.Document
import LogSieve.Proofs.Number.Literal
import LogSieve.Proofs.Outcome
import LogSieve.Proofs.Text.Decimal
import Mathlib.Data.List.Basic

/-!
# Strings are read back

Strings are read unit by unit: a character is one unit of sixteen bits or a pair of
surrogates, and no two characters give units that could be taken for a pair
(`textOfCodes_codeUnits`).  What may follow a value (`Follows`) goes on with no part of a
number.  Neither a word nor a string nor a number is an object (`readScalar_ne_object`).
-/

namespace LogSieve.Json

/-! ## Strings -/

/-- The units of sixteen bits of a character. -/
def codeUnits (c : Char) : List Nat :=
  if c.toNat < 0x10000 then [c.toNat]
  else [0xD800 + (c.toNat - 0x10000) / 0x400, 0xDC00 + (c.toNat - 0x10000) % 0x400]

theorem toNat_not_surrogate (c : Char) : ¬ (0xD800 ≤ c.toNat ∧ c.toNat < 0xE000) := by
  rcases c.valid with h | ⟨h, -⟩
  · have : c.toNat < 0xD800 := h
    omega
  · have : 0xDFFF < c.toNat := h
    omega

theorem toNat_le_last (c : Char) : c.toNat ≤ 0x10FFFF := by
  rcases c.valid with h | ⟨-, h⟩
  · have : c.toNat < 0xD800 := h
    omega
  · have : c.toNat < 0x110000 := h
    omega

/-- The units of a character are that character again, whatever units follow. -/
theorem textOfCodes_codeUnits (c : Char) (codes : List Nat) :
    textOfCodes (codeUnits c ++ codes) = c :: textOfCodes codes := by
  have hsingle := toNat_not_surrogate c
  unfold codeUnits
  split
  · -- no character is a surrogate, so its unit opens no pair with the next one
    cases codes with
    | nil => simp [textOfCodes, hsingle, Char.ofNat_toNat]
    | cons next rest =>
        have hpair : ¬ (0xD800 ≤ c.toNat ∧ c.toNat < 0xDC00 ∧ 0xDC00 ≤ next ∧ next < 0xE000) := by
          omega
        rw [List.singleton_append, textOfCodes, if_neg hpair, if_neg hsingle, Char.ofNat_toNat]
  · rename_i hbeyond
    have hlast := toNat_le_last c
    have hpair : 0xD800 ≤ 0xD800 + (c.toNat - 0x10000) / 0x400 ∧
        0xD800 + (c.toNat - 0x10000) / 0x400 < 0xDC00 ∧
        0xDC00 ≤ 0xDC00 + (c.toNat - 0x10000) % 0x400 ∧
        0xDC00 + (c.toNat - 0x10000) % 0x400 < 0xE000 := by
      omega
    have hback : 0x10000 + (0xD800 + (c.toNat - 0x10000) / 0x400 - 0xD800) * 0x400 +
        (0xDC00 + (c.toNat - 0x10000) % 0x400 - 0xDC00) = c.toNat := by
      omega
    rw [List.cons_append, List.singleton_append, textOfCodes, if_pos hpair, hback, Char.ofNat_toNat]

theorem stringCodes?_mark (rest : Text) : stringCodes? ('"' :: rest) = some ([], rest) := by
  rw [stringCodes?.eq_def]
  rfl

theorem stringCodes?_printable {c : Char} (hmark : c ≠ '"') (hescape : c ≠ '\\')
    (hcontrol : ¬ c.toNat < 32) (rest : Text) :
    stringCodes? (c :: rest) =
      (stringCodes? rest).map fun (codes, tail) => (c.toNat :: codes, tail) := by
  rw [stringCodes?.eq_def]
  simp only [hmark, hescape, hcontrol, if_false]

/-- An escape of one letter. -/
theorem stringCodes?_letter {letter meant : Char} (h : simpleEscape? letter = some meant)
    (rest : Text) :
    stringCodes? ('\\' :: letter :: rest) =
      (stringCodes? rest).map fun (codes, tail) => (meant.toNat :: codes, tail) := by
  have hmark : ('\\' : Char) ≠ '"' := by decide
  rw [stringCodes?.eq_def]
  simp only [hmark, if_false, if_true]
  split
  · rename_i heq
    obtain rfl : letter = 'u' := (List.cons.inj heq).1
    cases h
  · rename_i heq
    obtain ⟨rfl, rfl⟩ := List.cons.inj heq
    simp only [h]
  · rename_i heq
    cases heq

/-- An escape with four hexadecimal digits. -/
theorem stringCodes?_unit {h₃ h₂ h₁ h₀ : Char} {unit : Nat}
    (h : Text.hexadecimal? [h₃, h₂, h₁, h₀] = some unit) (rest : Text) :
    stringCodes? ('\\' :: 'u' :: h₃ :: h₂ :: h₁ :: h₀ :: rest) =
      (stringCodes? rest).map fun (codes, tail) => (unit :: codes, tail) := by
  have hmark : ('\\' : Char) ≠ '"' := by decide
  rw [stringCodes?.eq_def]
  simp only [hmark, if_false, if_true, h]

theorem hexValue?_digitChar : ∀ digit < 16, Text.hexValue? (Nat.digitChar digit) = some digit := by
  decide

theorem stringCodes?_escapedUnit {unit : Nat} (h : unit < 0x10000) (rest : Text) :
    stringCodes? (escapedUnit unit ++ rest) =
      (stringCodes? rest).map fun (codes, tail) => (unit :: codes, tail) := by
  have hvalue : Text.hexadecimal? [Nat.digitChar (unit / 4096), Nat.digitChar (unit / 256 % 16),
      Nat.digitChar (unit / 16 % 16), Nat.digitChar (unit % 16)] = some unit := by
    have hnumber : (((0 * 16 + unit / 4096) * 16 + unit / 256 % 16) * 16 + unit / 16 % 16) * 16 +
        unit % 16 = unit := by
      omega
    simp only [Text.hexadecimal?, List.isEmpty_cons, Bool.false_eq_true, if_false, List.mapM_cons,
      List.mapM_nil, hexValue?_digitChar (unit / 4096) (by omega),
      hexValue?_digitChar (unit / 256 % 16) (by omega),
      hexValue?_digitChar (unit / 16 % 16) (by omega), hexValue?_digitChar (unit % 16) (by omega),
      Option.pure_def, Option.bind_eq_bind, Option.bind_some, Option.map_some, Text.numberOf,
      List.foldl_cons, List.foldl_nil, hnumber]
  exact stringCodes?_unit hvalue rest

/-- A written character is read as its units. -/
theorem stringCodes?_escapedChar (c : Char) (rest : Text) :
    stringCodes? (escapedChar c ++ rest) =
      (stringCodes? rest).map fun (codes, tail) => (codeUnits c ++ codes, tail) := by
  have hlast := toNat_le_last c
  have hletter : ∀ letter meant : Char, simpleEscape? letter = some meant → meant.toNat < 0x10000 →
      stringCodes? (['\\', letter] ++ rest) =
        (stringCodes? rest).map fun (codes, tail) => (codeUnits meant ++ codes, tail) := by
    intro letter meant hmeant hsmall
    rw [codeUnits, if_pos hsmall]
    exact stringCodes?_letter hmeant rest
  unfold escapedChar
  split
  · rename_i hc
    exact hc ▸ hletter '"' '"' rfl (by decide)
  split
  · rename_i hc
    exact hc ▸ hletter '\\' '\\' rfl (by decide)
  split
  · rename_i hc
    exact hc ▸ hletter 'n' '\n' rfl (by decide)
  split
  · rename_i hc
    exact hc ▸ hletter 'r' '\r' rfl (by decide)
  split
  · rename_i hc
    exact hc ▸ hletter 't' '\t' rfl (by decide)
  split
  · rename_i hc
    exact hc ▸ hletter 'f' '\x0c' rfl (by decide)
  split
  · rename_i hc
    exact hc ▸ hletter 'b' '\x08' rfl (by decide)
  split
  · -- a character that stands for itself
    rename_i hmark hescape _ _ _ _ _ hprintable
    have hcontrol : ¬ c.toNat < 32 := by omega
    have hsmall : c.toNat < 0x10000 := by omega
    rw [codeUnits, if_pos hsmall]
    exact stringCodes?_printable hmark hescape hcontrol rest
  split
  · rename_i hsmall
    rw [stringCodes?_escapedUnit hsmall]
    simp [codeUnits, hsmall]
  · rename_i hbeyond
    rw [List.append_assoc, stringCodes?_escapedUnit (by omega), stringCodes?_escapedUnit (by omega)]
    simp [codeUnits, hbeyond, Function.comp_def]

theorem readString_written (t rest : Text) :
    readString (t.flatMap escapedChar ++ '"' :: rest) = .ok (t, rest) := by
  have htext : textOfCodes (t.flatMap codeUnits) = t := by
    induction t with
    | nil => rfl
    | cons c more ih => rw [List.flatMap_cons, textOfCodes_codeUnits, ih]
  have hcodes : stringCodes? (t.flatMap escapedChar ++ '"' :: rest) =
      some (t.flatMap codeUnits, rest) := by
    clear htext
    induction t with
    | nil => exact stringCodes?_mark rest
    | cons c more ih =>
        rw [List.flatMap_cons, List.append_assoc, stringCodes?_escapedChar, ih]
        rfl
  rw [readString, hcodes]
  simp only [htext]

/-! ## Digits, words and what follows them -/

/-- What may follow a value: the end of the text, or what ends an item, a member, an array or an
object. -/
def Follows (rest : Text) : Prop := ∀ c ∈ rest.head?, c = ',' ∨ c = ']' ∨ c = '\x7d'

theorem follows_nil : Follows [] := by simp [Follows]

theorem follows_cons {c : Char} (h : c = ',' ∨ c = ']' ∨ c = '\x7d') (rest : Text) :
    Follows (c :: rest) := by
  simpa [Follows] using h

namespace Follows

variable {rest : Text}

theorem digit?_eq_none (h : Follows rest) : ∀ c ∈ rest.head?, digit? c = none := by
  intro c hc
  rcases h c hc with rfl | rfl | rfl <;> decide

theorem fraction?_eq_none (h : Follows rest) : fraction? rest = none := by
  cases rest with
  | nil => rfl
  | cons c more =>
      have hpoint : c ≠ '.' := by
        rcases h c rfl with rfl | rfl | rfl <;> decide
      unfold fraction?
      split
      · rename_i heq
        exact absurd (List.cons.inj heq).1 hpoint
      · rfl

theorem exponent?_eq_none (h : Follows rest) : Number.exponent? digit? rest = none := by
  cases rest with
  | nil => rfl
  | cons c more =>
      have hletter : ¬ (c = 'e' ∨ c = 'E') := by
        rcases h c rfl with rfl | rfl | rfl <;> decide
      rw [Number.exponent?, if_neg hletter]

end Follows

theorem digit?_of_isAsciiDigit {c : Char} (h : Text.isAsciiDigit c = true) :
    digit? c = some (c.toNat - '0'.toNat) := by
  rw [digit?, if_pos h]

theorem isAsciiDigit_of_digit? {c : Char} (h : (digit? c).isSome = true) :
    Text.isAsciiDigit c = true := by
  unfold digit? at h
  split at h
  · assumption
  · cases h

theorem areDigits_of_isAsciiDigit {digits : Text} (hne : digits ≠ [])
    (h : ∀ c ∈ digits, Text.isAsciiDigit c = true) : Number.AreDigits digit? digits := by
  refine ⟨hne, fun c hc => ?_⟩
  rw [digit?_of_isAsciiDigit (h c hc)]
  rfl

theorem filterMap_digit? {digits : Text} (h : ∀ c ∈ digits, Text.isAsciiDigit c = true) :
    digits.filterMap digit? = Text.digitValues digits := by
  rw [Text.digitValues, ← List.filterMap_eq_map]
  exact List.filterMap_congr fun c hc => digit?_of_isAsciiDigit (h c hc)

/-- Digits at the start of a text are no word. -/
theorem word?_of_head {c : Char} (h : c ∉ ['n', 't', 'f', 'N', 'I', '-']) (rest : Text) :
    word? (c :: rest) = none := by
  simp only [List.mem_cons, List.not_mem_nil, or_false, not_or] at h
  obtain ⟨hnull, htrue, hfalse, hnan, hinfinity, hminus⟩ := h
  simp [word?, words, Ne.symm hnull, Ne.symm htrue, Ne.symm hfalse, Ne.symm hnan,
    Ne.symm hinfinity, Ne.symm hminus]

theorem word?_of_minus {c : Char} (h : c ≠ 'I') (rest : Text) : word? ('-' :: c :: rest) = none := by
  simp [word?, words, Ne.symm h]

/-! ## No scalar is an object -/

theorem word?_ne_object (text : Text) (members : List (Text × Value)) (rest : Text) :
    word? text ≠ some (.object members, rest) := by
  intro h
  obtain ⟨⟨word, value⟩, hmem, hread⟩ := List.exists_of_findSome?_eq_some h
  have hvalue : value = .object members := by
    simp only at hread
    split at hread
    · exact (Prod.mk.inj (Option.some.inj hread)).1
    · cases hread
  simp [words, hvalue] at hmem

theorem readNumber_ne_object (text : Text) (members : List (Text × Value)) (rest : Text) :
    readNumber text ≠ .ok (.object members, rest) := by
  intro h
  unfold readNumber at h
  split at h
  split at h
  · cases h
  · split at h
    · split at h <;> simp at h
    · simp at h

theorem readScalar_ne_object (text : Text) (members : List (Text × Value)) (rest : Text) :
    readScalar text ≠ .ok (.object members, rest) := by
  intro h
  unfold readScalar at h
  split at h
  · rename_i read hread
    obtain rfl : read = (.object members, rest) := by simpa using h
    exact word?_ne_object _ _ _ hread
  · split at h
    · obtain ⟨pair, -, hpair⟩ := exists_of_map_eq_ok h
      cases hpair
    · exact readNumber_ne_object _ _ _ h

end LogSieve.Json
