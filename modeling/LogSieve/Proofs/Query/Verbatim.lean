import LogSieve.Proofs.Text.Sigma
import LogSieve.Query.Matching

/-!
# Verbatim texts

A text that stands on a line as it is written in the query is found there, and so is one
that stands in a field, as long as its capital sigmas have the same form in the text alone
and where it stands.  Lines and fields are searched in the same way, so both halves of
`holds_verbatim` are facts about texts: one occurrence is found if it keeps its sigmas
(`Text.holdsIgnoringCase_of_keepsSigmas`), and all occurrences in all records are if and
only if the sigmas are settled (`Text.forall_holdsIgnoringCase_iff`).
-/

namespace LogSieve.Query

variable {stack : Stack}

/-- A record of which only the line and the fields are known. -/
def lineWith (raw : Text) (fields : Fields) : Record := ⟨raw, none, fields, none, none, none⟩

theorem holds_text {record : Record} {piece : Text} :
    Term.holds stack record ⟨false, .text piece⟩ = Text.holdsIgnoringCase record.raw piece := by
  simp [Term.holds, Condition.holds]

theorem holds_field {record : Record} {key value piece : Text}
    (h : Association.get? key record.fields = some value) :
    Term.holds stack record ⟨false, .field key piece⟩ = Text.holdsIgnoringCase value piece := by
  simp [Term.holds, Condition.holds, h]

theorem forall_holds_text_iff {piece : Text} :
    (∀ record : Record, piece <:+: record.raw →
        Term.holds stack record ⟨false, .text piece⟩ = true) ↔ Text.SettlesSigmas piece := by
  rw [← Text.forall_holdsIgnoringCase_iff]
  constructor
  · intro h before after
    have hheld := h (lineWith (before ++ piece ++ after) []) (List.infix_append before piece after)
    rw [holds_text] at hheld
    exact hheld
  · rintro h record ⟨before, after, hraw⟩
    rw [holds_text, ← hraw]
    exact h before after

theorem forall_holds_field_iff {key piece : Text} :
    (∀ (record : Record) (value : Text), Association.get? key record.fields = some value →
        piece <:+: value → Term.holds stack record ⟨false, .field key piece⟩ = true) ↔
      Text.SettlesSigmas piece := by
  rw [← Text.forall_holdsIgnoringCase_iff]
  constructor
  · intro h before after
    have hvalue : Association.get? key (lineWith [] [(key, before ++ piece ++ after)]).fields =
        some (before ++ piece ++ after) := by
      simp [lineWith, Association.get?]
    rw [← holds_field hvalue]
    exact h _ _ hvalue (List.infix_append before piece after)
  · rintro h record value hvalue ⟨before, after, rfl⟩
    rw [holds_field hvalue]
    exact h before after

/-- A text is found on a line, and in a field, where it stands verbatim and keeps its sigmas; it is
found in every record that holds it exactly if its sigmas are settled. -/
theorem holds_verbatim (stack : Stack) (piece : Text) :
    (∀ (record : Record) (before after : Text), record.raw = before ++ piece ++ after →
        Text.KeepsSigmas before piece after →
        Term.holds stack record ⟨false, .text piece⟩ = true) ∧
      (∀ (record : Record) (key before after : Text),
        Association.get? key record.fields = some (before ++ piece ++ after) →
        Text.KeepsSigmas before piece after →
        Term.holds stack record ⟨false, .field key piece⟩ = true) ∧
      ((∀ record : Record, piece <:+: record.raw →
        Term.holds stack record ⟨false, .text piece⟩ = true) ↔ Text.SettlesSigmas piece) ∧
      ∀ key, (∀ (record : Record) (value : Text),
        Association.get? key record.fields = some value → piece <:+: value →
        Term.holds stack record ⟨false, .field key piece⟩ = true) ↔ Text.SettlesSigmas piece := by
  refine ⟨?_, ?_, forall_holds_text_iff, fun _ => forall_holds_field_iff⟩
  · intro record before after hraw hkeeps
    rw [holds_text, hraw]
    exact Text.holdsIgnoringCase_of_keepsSigmas hkeeps
  · intro record key before after hvalue hkeeps
    rw [holds_field hvalue]
    exact Text.holdsIgnoringCase_of_keepsSigmas hkeeps

/-- A word that ends in a sigma is found as a word and not inside of a longer one. -/
theorem holds_verbatim_wordEnd :
    Text.KeepsSigmas [] ['Α', 'Σ'] [' ', '5'] ∧
      Term.holds .direct (lineWith ['Α', 'Σ', ' ', '5'] []) ⟨false, .text ['Α', 'Σ']⟩ = true ∧
      Term.holds .direct (lineWith ['Α', 'Σ', 'Α'] []) ⟨false, .text ['Α', 'Σ']⟩ = false ∧
      ¬ Text.SettlesSigmas ['Α', 'Σ'] := by
  obtain ⟨hline, -, hsettles, -⟩ := holds_verbatim .direct ['Α', 'Σ']
  have hkeeps : Text.KeepsSigmas [] ['Α', 'Σ'] [' ', '5'] :=
    Text.lowerWithin_eq_iff.mp (by decide +kernel)
  have hinside :
      Term.holds .direct (lineWith ['Α', 'Σ', 'Α'] []) ⟨false, .text ['Α', 'Σ']⟩ = false := by
    decide +kernel
  refine ⟨hkeeps, hline _ [] [' ', '5'] rfl hkeeps, hinside, ?_⟩
  intro h
  have hfound := hsettles.mpr h (lineWith ['Α', 'Σ', 'Α'] []) ⟨[], ['Α'], rfl⟩
  exact Bool.false_ne_true (hinside.symm.trans hfound)

end LogSieve.Query
