import LogSieve.CommandLine.Argument
import LogSieve.Proofs.Text.Parts

/-!
# Words that are no options

The words of a command line are told apart by their looks alone, so a word that was
meant as it stands may be taken for an option.  `IsPlain` says which words are not:
those without a dash in front, the single dash, and of the others those that neither
begin like an option nor lack both a space and the look of a negative number
(`ofWord_eq_plain_iff`).
-/

namespace LogSieve.CommandLine

/-- Digits, or digits around a point with at least one behind it. -/
def IsUnsigned (text : Text) : Prop :=
  (text ≠ [] ∧ ∀ c ∈ text, Text.isDigit c = true) ∨
    ∃ whole fraction, text = whole ++ '.' :: fraction ∧ fraction ≠ [] ∧
      (∀ c ∈ whole, Text.isDigit c = true) ∧ ∀ c ∈ fraction, Text.isDigit c = true

/-- A number without a sign, and perhaps a line feed behind it. -/
def IsNumeral (text : Text) : Prop :=
  ∃ numeral ending, text = numeral ++ ending ∧ (ending = [] ∨ ending = ['\n']) ∧
    IsUnsigned numeral

/-- A word begins like an option: with the letter for help behind its dash, or, up to an equals
sign, like a long name. -/
def NamesSwitch (word : Text) : Prop :=
  ['-', 'h'] <+: word ∨
    ['-', '-'] <+: word ∧ ∃ switch : Switch, word.takeWhile (· != '=') <+: switch.name

/-- A word stands for itself wherever it comes before the two dashes. -/
def IsPlain (word : Text) : Prop :=
  word.head? ≠ some '-' ∨ word = ['-'] ∨
    ¬ NamesSwitch word ∧ (IsNumeral (word.drop 1) ∨ ' ' ∈ word)

/-! ## Negative numbers -/

theorem isDigits_iff {text : Text} :
    isDigits text = true ↔ text ≠ [] ∧ ∀ c ∈ text, Text.isDigit c = true := by
  simp [isDigits]

/-- A line feed at the end of a text is not looked at. -/
theorem isMagnitude_iff_isUnsigned {text : Text} :
    isMagnitude text = true ↔
      IsUnsigned (if text.getLast? = some '\n' then text.dropLast else text) := by
  have hpoint : Text.isDigit '.' = false := by decide
  unfold isMagnitude
  generalize (if text.getLast? = some '\n' then text.dropLast else text) = numeral
  rw [Bool.or_eq_true, isDigits_iff]
  refine or_congr_right ?_
  constructor
  · intro h
    split at h
    · rename_i whole fraction hsplit
      rw [Bool.and_eq_true, isDigits_iff, List.all_eq_true] at h
      exact ⟨whole, fraction, (Text.splitFirst_eq_some hsplit).1, h.2.1, h.1, h.2.2⟩
    · cases h
  · rintro ⟨whole, fraction, rfl, hne, hwhole, hfraction⟩
    have hmark : '.' ∉ whole := by
      intro hmem
      rw [hwhole '.' hmem] at hpoint
      cases hpoint
    rw [Text.splitFirst_append_cons hmark]
    simp only [Bool.and_eq_true, isDigits_iff, List.all_eq_true]
    exact ⟨hwhole, hne, hfraction⟩

/-- A number ends with a digit. -/
theorem IsUnsigned.getLast?_ne {text : Text} (h : IsUnsigned text) : text.getLast? ≠ some '\n' := by
  have hfeed : Text.isDigit '\n' = false := by decide
  intro hlast
  obtain ⟨c, hc, hdigit⟩ : ∃ c, text.getLast? = some c ∧ Text.isDigit c = true := by
    rcases h with ⟨hne, hdigits⟩ | ⟨whole, fraction, rfl, hne, -, hdigits⟩
    · exact ⟨_, List.getLast?_eq_some_getLast hne, hdigits _ (List.getLast_mem hne)⟩
    · refine ⟨fraction.getLast hne, ?_, hdigits _ (List.getLast_mem hne)⟩
      rw [List.getLast?_append_of_ne_nil _ (List.cons_ne_nil '.' fraction),
        List.getLast?_cons_of_ne_nil hne, List.getLast?_eq_some_getLast hne]
  obtain rfl : c = '\n' := Option.some.inj (hc.symm.trans hlast)
  rw [hfeed] at hdigit
  cases hdigit

theorem isMagnitude_iff {text : Text} : isMagnitude text = true ↔ IsNumeral text := by
  rw [isMagnitude_iff_isUnsigned]
  constructor
  · intro h
    split at h
    · rename_i hlast
      obtain ⟨front, rfl⟩ := List.getLast?_eq_some_iff.mp hlast
      rw [List.dropLast_concat] at h
      exact ⟨front, ['\n'], rfl, .inr rfl, h⟩
    · exact ⟨text, [], (List.append_nil text).symm, .inl rfl, h⟩
  · rintro ⟨numeral, ending, rfl, rfl | rfl, h⟩
    · rwa [List.append_nil, if_neg h.getLast?_ne]
    · rwa [List.getLast?_concat, if_pos rfl, List.dropLast_concat]

/-! ## Options -/

theorem Switch.mem_all (switch : Switch) : switch ∈ Switch.all := by
  cases switch <;> decide

theorem startingWith_eq_nil_iff {start : Text} :
    Switch.startingWith start = [] ↔ ¬ ∃ switch : Switch, start <+: switch.name := by
  rw [Switch.startingWith, List.filter_eq_nil_iff]
  simp [Switch.mem_all]

/-- The part of a word up to an equals sign. -/
theorem getD_splitFirst (mark : Char) (word : Text) :
    ((Text.splitFirst mark word).map Prod.fst).getD word = word.takeWhile (· != mark) := by
  induction word with
  | nil => rfl
  | cons c rest ih =>
      by_cases hc : c = mark
      · simp [Text.splitFirst, hc]
      · cases hrest : Text.splitFirst mark rest with
        | none => simpa [Text.splitFirst, hc, hrest] using ih
        | some pair => simpa [Text.splitFirst, hc, hrest] using ih

/-- A word with a dash that is no option. -/
theorem ofDashed_eq_plain_iff {word : Text} :
    Argument.ofDashed word = .plain word ↔ IsNumeral (word.drop 1) ∨ ' ' ∈ word := by
  rw [Argument.ofDashed, ← isMagnitude_iff]
  split
  · rename_i h
    simpa using h
  · rename_i h
    simpa using h

/-- A long option is known by what stands before an equals sign, its value by what stands behind
it. -/
theorem ofWord_dashes (rest : Text) :
    Argument.ofWord ('-' :: '-' :: rest) =
      match Switch.startingWith (('-' :: '-' :: rest).takeWhile (· != '=')) with
      | [] => .ok (Argument.ofDashed ('-' :: '-' :: rest))
      | [switch] =>
        .ok (.option switch ((Text.splitFirst '=' ('-' :: '-' :: rest)).map Prod.snd))
      | switches => .error ⟨'-' :: '-' :: rest, switches⟩ := by
  rw [← getD_splitFirst, Argument.ofWord]
  cases Text.splitFirst '=' ('-' :: '-' :: rest) <;> rfl

/-- A word that begins like no option stands for itself if it has a space or is a number. -/
theorem ofWord_eq_ofDashed {c : Char} {rest : Text} (h : ¬ NamesSwitch ('-' :: c :: rest)) :
    Argument.ofWord ('-' :: c :: rest) = .ok (Argument.ofDashed ('-' :: c :: rest)) := by
  have hhelp : c ≠ 'h' := by
    rintro rfl
    exact h (.inl ⟨rest, rfl⟩)
  by_cases hdash : c = '-'
  · subst hdash
    have hnone : Switch.startingWith (('-' :: '-' :: rest).takeWhile (· != '=')) = [] :=
      startingWith_eq_nil_iff.mpr fun hname => h (.inr ⟨⟨rest, rfl⟩, hname⟩)
    rw [ofWord_dashes, hnone]
  · unfold Argument.ofWord
    split
    · rename_i heq
      exact absurd (List.cons.inj (List.cons.inj heq).2).1 hdash
    · rename_i heq
      exact absurd (List.cons.inj (List.cons.inj heq).2).1 hhelp
    · rfl
    · rename_i heq
      exact absurd rfl (heq c rest)

/-- A word that begins like an option never stands for itself. -/
theorem ofWord_ne_plain {word : Text} (h : NamesSwitch word) (other : Text) :
    Argument.ofWord word ≠ .ok (.plain other) := by
  rcases h with ⟨rest, rfl⟩ | ⟨⟨rest, rfl⟩, hname⟩
  · exact fun heq => nomatch heq
  · rw [List.cons_append, List.singleton_append] at hname ⊢
    rw [ofWord_dashes]
    split
    · rename_i hnone
      exact absurd hname (startingWith_eq_nil_iff.mp hnone)
    · exact fun heq => nomatch heq
    · exact fun heq => nomatch heq

/-- Plain words, and no others, are taken as they stand. -/
theorem ofWord_eq_plain_iff {word : Text} :
    Argument.ofWord word = .ok (.plain word) ↔ IsPlain word := by
  by_cases hdash : word.head? = some '-'
  · obtain ⟨rest, rfl⟩ := List.head?_eq_some_iff.mp hdash
    cases rest with
    | nil => exact iff_of_true rfl (.inr (.inl rfl))
    | cons c rest =>
        have hlonger : ('-' :: c :: rest : Text) ≠ ['-'] := by simp
        by_cases hname : NamesSwitch ('-' :: c :: rest)
        · refine iff_of_false (ofWord_ne_plain hname _) ?_
          rintro (hhead | hsingle | ⟨hnone, -⟩)
          · exact hhead hdash
          · exact hlonger hsingle
          · exact hnone hname
        · rw [ofWord_eq_ofDashed hname, Except.ok.injEq, ofDashed_eq_plain_iff]
          simp only [IsPlain, hdash, ne_eq, not_true, hlonger, hname, not_false_eq_true, true_and,
            false_or]
  · refine iff_of_true ?_ (.inl hdash)
    unfold Argument.ofWord
    split
    · exact absurd rfl hdash
    · exact absurd rfl hdash
    · exact absurd rfl hdash
    · rfl

instance (word : Text) : Decidable (IsPlain word) := decidable_of_iff _ ofWord_eq_plain_iff

/-- A term with a dash in front is taken for an option unless there is a space in it. -/
example : ¬ IsPlain "-debug".toList ∧ IsPlain "-\"health check\"".toList := by decide

end LogSieve.CommandLine
