import LogSieve.Proofs.Association
import LogSieve.Proofs.Query.Filters
import LogSieve.Proofs.Text.Lowering
import LogSieve.Query.Matching

/-!
# Filters on the records that they come from

The filter of a field is put to the record that has the field.  If it is read as a
field, it finds what it was written for, or the same text with a blank end, and is
satisfied.  If it is read as a text, this text must stand on the line; if it is
read as a level, the record must have this level, whatever its field says.
-/

namespace LogSieve.Query

variable {stack : Stack}

/-- What it takes for a record to satisfy the filter of one of its fields. -/
structure Selects (record : Record) (key value : Text) : Prop where
  /-- A filter without a line for a value is looked for on the line of the record. -/
  text : keptValue value = [] ∨ '\n' ∈ keptValue value →
    Text.holdsIgnoringCase record.raw (key ++ ':' :: lexemeValue value) = true
  /-- A filter that names a severity goes by the level of the record. -/
  level : isLevelKey key = true → ∀ severity, Severity.ofName? (keptValue value) = some severity →
    record.level.bind Severity.ofName? = some severity

/-- A text with a character that lower case leaves alone is no severity's name if none of the
names has this character. -/
theorem ofName?_eq_none_of_mem {c : Char} (hsigma : c ≠ 'Σ') (hlower : Text.lowerOf c = [c])
    (hnames : ∀ severity ∈ Severity.all, c ∉ severity.name) {name : Text} (h : c ∈ name) :
    Severity.ofName? name = none := by
  refine List.find?_eq_none.mpr fun severity hseverity hname => ?_
  rw [beq_iff_eq] at hname
  exact hnames severity hseverity (hname ▸ Text.mem_lower_of_lowerOf hsigma hlower h)

/-- No severity has a name without a character or with a line feed. -/
theorem ofName?_eq_none_of_not_line {name : Text} (h : name = [] ∨ '\n' ∈ name) :
    Severity.ofName? name = none := by
  rcases h with rfl | hmem
  · rfl
  · exact ofName?_eq_none_of_mem (by decide) (by decide) (by decide) hmem

/-- A value holds what is kept of it. -/
theorem holdsIgnoringCase_keptValue (value : Text) :
    Text.holdsIgnoringCase value (keptValue value) = true := by
  unfold keptValue
  split
  · exact Text.holdsIgnoringCase_self value
  · obtain ⟨blanks, hblanks, heq⟩ := Text.exists_stripEnd_append value
    have hholds := Text.holdsIgnoringCase_of_append hblanks (Text.stripEnd value)
    rwa [← heq] at hholds

theorem holds_fieldCondition_iff {record : Record} {key value : Text}
    (h : Association.get? key record.fields = some value) :
    (fieldCondition key (keptValue value)).holds stack record = true ↔
      (isLevelKey key = true → ∀ severity, Severity.ofName? (keptValue value) = some severity →
        record.level.bind Severity.ofName? = some severity) := by
  unfold fieldCondition
  split
  · -- read as a level
    rename_i severity hkey hname
    simp only [Condition.holds, hkey, hname, Option.some.injEq, forall_eq', true_implies]
    cases record.level.bind Severity.ofName? with
    | none => simp
    | some other => simp
  · -- read as a field, which the record has
    rename_i hnot
    have hfield : Condition.holds stack record (.field key (keptValue value)) = true := by
      simp only [Condition.holds, h, Option.any_some]
      exact holdsIgnoringCase_keptValue value
    simp only [hfield, true_iff]
    intro hkey severity hname
    exact absurd hname (hnot severity hkey)

/-- The filter of a field is satisfied on the record of the field exactly if it selects it. -/
theorem holds_filterCondition_iff {record : Record} {key value : Text}
    (h : Association.get? key record.fields = some value) :
    (filterCondition key value).holds stack record = true ↔ Selects record key value := by
  unfold filterCondition
  split
  · -- read as a text; what is no line names no severity
    rename_i hnot
    constructor
    · intro hholds
      refine ⟨fun _ => hholds, fun _ severity hname => ?_⟩
      rw [ofName?_eq_none_of_not_line hnot] at hname
      cases hname
    · intro hselects
      exact hselects.text hnot
  · rename_i hline
    rw [holds_fieldCondition_iff h]
    exact ⟨fun hlevel => ⟨fun hnot => absurd hnot hline, hlevel⟩, Selects.level⟩

end LogSieve.Query
