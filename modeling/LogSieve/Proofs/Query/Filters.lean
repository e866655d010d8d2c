import LogSieve.Proofs.Query.Forms
import LogSieve.Query.FieldFilter

/-!
# Filters read back

A filter is written for a field and read as a query again.  It is always one
lexeme (`terms_filter`), but not always the field that it was written for:

* a blank character at the end of a value without quotation marks is stripped off
  with the lexeme, and with it the whole value if nothing else is left;
* a line feed inside the value keeps the lexeme from being one line, so that it is
  read as a text, the key with it;
* the name of a severity behind the key of levels is read as a level.

These are all the ways to go wrong: `terms_filter_eq_iff`.
-/

namespace LogSieve.Query

/-- A value as its filter writes it. -/
def writtenValue (value : Text) : Text :=
  if needsMarks value then '"' :: value ++ ['"'] else value

/-- What the lexeme of a filter has behind its colon. -/
def lexemeValue (value : Text) : Text :=
  if needsMarks value then '"' :: value ++ ['"'] else Text.stripEnd value

/-- The value of a filter without the quotation marks that it may stand in. -/
def keptValue (value : Text) : Text := if needsMarks value then value else Text.stripEnd value

/-- What the filter of a field is read as. -/
def filterCondition (key value : Text) : Condition :=
  if keptValue value = [] ∨ '\n' ∈ keptValue value then .text (key ++ ':' :: lexemeValue value)
  else fieldCondition key (keptValue value)

/-- The filter of a field is read as the field. -/
structure ReadsBack (key value : Text) : Prop where
  /-- The value is one line. -/
  isLine : '\n' ∉ value
  /-- The value stands between quotation marks or does not end in a blank character. -/
  keepsEnd : needsMarks value = true ∨ ∀ c ∈ value.getLast?, Text.isBlank c = false
  /-- The field is not one level. -/
  notLevel : ¬ (isLevelKey key = true ∧ (Severity.ofName? value).isSome = true)

/-! ## What is written -/

theorem isWritable_iff {value : Text} :
    isWritable value = true ↔ '"' ∉ value ∧ '\\' ∉ value ∧ ¬ ['.', '.'] <:+: value := by
  have hdots : Text.occursIn "..".toList value = false ↔ ¬ ['.', '.'] <:+: value := by
    rw [← Bool.not_eq_true, Text.occursIn_iff_isInfix]
    rfl
  simp only [isWritable, Bool.and_eq_true, Bool.not_eq_true', hdots, and_assoc]
  simp

theorem isKey_iff {key : Text} :
    IsKey key ↔ (key.isEmpty || !key.all Text.isAsciiWord) = false := by
  constructor
  · rintro ⟨hne, hword⟩
    simpa [hne] using hword
  · intro h
    simp only [Bool.or_eq_false_iff, List.isEmpty_eq_false_iff, Bool.not_eq_false',
      List.all_eq_true] at h
    exact ⟨h.1, h.2⟩

/-- A filter is written for keys that are words and writable values that are not empty. -/
theorem fieldFilter_eq_ok_iff {key value filter : Text} :
    fieldFilter key value = .ok filter ↔
      IsKey key ∧ value ≠ [] ∧ isWritable value = true ∧
        filter = key ++ ':' :: writtenValue value := by
  rw [isKey_iff]
  unfold fieldFilter writtenValue
  by_cases hkey : (key.isEmpty || !key.all Text.isAsciiWord) = true
  · simp [hkey]
  · by_cases hvalue : value = []
    · simp [hkey, hvalue]
    · by_cases hwritable : isWritable value = true
      · by_cases hmarks : needsMarks value = true
        · simpa [hkey, hvalue, hwritable, hmarks] using eq_comm
        · simpa [hkey, hvalue, hwritable, hmarks] using eq_comm
      · simp [hkey, hvalue, hwritable]

/-- What is writable neither quotes nor escapes, and apart from marked values it holds no slash and
no separator either. -/
theorem isInert_of_not_needsMarks {value : Text} (hwritable : isWritable value = true)
    (hmarks : needsMarks value = false) {c : Char} (hc : c ∈ value) : isInert c = true := by
  obtain ⟨hquote, hbackslash, -⟩ := isWritable_iff.mp hwritable
  have hmark : (c == ' ' || c == '\t' || c == '/') = false :=
    (List.any_eq_false.mp hmarks) c hc |> Bool.eq_false_iff.mpr
  simp only [Bool.or_eq_false_iff, beq_eq_false_iff_ne] at hmark
  have hcquote : c ≠ '"' := by
    rintro rfl
    exact hquote hc
  have hcbackslash : c ≠ '\\' := by
    rintro rfl
    exact hbackslash hc
  simp [isInert, isSeparator, hcquote, hcbackslash, hmark]

/-- A filter is a sealed text. -/
theorem isSealed_filter {key value filter : Text} (h : fieldFilter key value = .ok filter) :
    IsSealed filter := by
  obtain ⟨hkey, -, hwritable, rfl⟩ := fieldFilter_eq_ok_iff.mp h
  obtain ⟨hquote, hbackslash, -⟩ := isWritable_iff.mp hwritable
  have hcolon : IsSealed [':'] := .of_all (by decide)
  have hwritten : IsSealed (writtenValue value) := by
    unfold writtenValue
    split
    · exact .quoted hquote hbackslash
    · rename_i hmarks
      exact .of_inert fun c hc => isInert_of_not_needsMarks hwritable (by simpa using hmarks) hc
  exact hkey.isSealed.append (hcolon.append hwritten)

/-! ## What is read -/

/-- The lexeme of a filter is the filter without the blank end that its value may have. -/
theorem strip_filter {key value filter : Text} (h : fieldFilter key value = .ok filter) :
    filter.strip = key ++ ':' :: lexemeValue value := by
  obtain ⟨hkey, -, -, rfl⟩ := fieldFilter_eq_ok_iff.mp h
  have hhead : ∀ rest : Text, ∀ c ∈ (key ++ ':' :: rest).head?, Text.isBlank c = false := by
    intro rest c hc
    obtain ⟨d, tail, rfl, hd⟩ := hkey.exists_cons
    obtain rfl : d = c := by simpa using hc
    exact (isInert_of_isAsciiWord hd).2.1
  unfold writtenValue lexemeValue
  split
  · -- the quotation mark at the end keeps the value whole
    exact Text.strip_eq_self (hhead _) (by simpa [List.getLast?_cons] using by decide)
  · -- the strip reaches into the value, and stops at the colon at the latest
    obtain ⟨blanks, hblanks, heq⟩ := Text.exists_stripEnd_append value
    have hlast : ∀ c ∈ (key ++ ':' :: Text.stripEnd value).getLast?, Text.isBlank c = false := by
      intro c hc
      rcases Text.mem_getLast?_append_cons hc with rfl | hc
      · decide
      · exact Text.getLast?_stripEnd hc
    calc Text.strip (key ++ ':' :: value)
        = Text.strip (key ++ ':' :: Text.stripEnd value ++ blanks) := by
          conv_lhs => rw [heq]
          rw [List.append_assoc, List.cons_append]
      _ = Text.strip (key ++ ':' :: Text.stripEnd value) := Text.strip_append_right _ hblanks
      _ = key ++ ':' :: Text.stripEnd value := Text.strip_eq_self (hhead _) hlast

theorem unquote_lexemeValue {value : Text} (h : isWritable value = true) :
    unquote (lexemeValue value) = keptValue value := by
  unfold lexemeValue keptValue
  split
  · exact unquote_quoted value
  · obtain ⟨hquote, -, -⟩ := isWritable_iff.mp h
    obtain ⟨blanks, -, heq⟩ := Text.exists_stripEnd_append value
    apply unquote_of_head_ne
    intro hhead
    apply hquote
    rw [heq]
    exact List.mem_append_left _ (List.mem_of_head? hhead)

/-- Quotation marks neither are a line feed nor dots, so they do not show in the conditions of the
reading. -/
theorem lexemeValue_iff {value : Text} (hne : value ≠ []) :
    (lexemeValue value = [] ∨ '\n' ∈ lexemeValue value ↔
      keptValue value = [] ∨ '\n' ∈ keptValue value) ∧
      (lexemeValue value).getLast? ≠ some '\n' := by
  unfold lexemeValue keptValue
  split
  · simp [hne, List.getLast?_cons]
  · refine ⟨Iff.rfl, fun hlast => ?_⟩
    exact absurd (Text.getLast?_stripEnd hlast) (by decide)

theorem dots_lexemeValue {value : Text} (h : isWritable value = true) :
    ¬ ['.', '.'] <:+: lexemeValue value := by
  obtain ⟨-, -, hdots⟩ := isWritable_iff.mp h
  unfold lexemeValue
  intro hlexeme
  apply hdots
  split at hlexeme
  · exact Text.pair_isInfix_surround (by decide) hlexeme
  · obtain ⟨blanks, -, heq⟩ := Text.exists_stripEnd_append value
    rw [heq]
    exact List.infix_append_of_infix_left hlexeme

/-- The reading of the lexeme of a filter. -/
theorem ofBody_filter {key value filter : Text} (h : fieldFilter key value = .ok filter) :
    Condition.ofBody filter.strip = filterCondition key value := by
  rw [strip_filter h]
  obtain ⟨hkey, hne, hwritable, -⟩ := fieldFilter_eq_ok_iff.mp h
  obtain ⟨hiff, hlast⟩ := lexemeValue_iff hne
  unfold filterCondition
  split
  · rename_i hnot
    exact ofBody_of_not_line hkey hlast (hiff.mpr hnot)
  · rename_i hline
    rw [← hiff, not_or] at hline
    rw [ofBody_value hkey hline.1 hline.2 (dots_lexemeValue hwritable),
      unquote_lexemeValue hwritable]

/-- A filter is one lexeme and hence one term, which is not negated. -/
theorem ofLexeme?_filter {key value filter : Text} (h : fieldFilter key value = .ok filter) :
    Term.ofLexeme? filter.strip = some ⟨false, filterCondition key value⟩ := by
  have hhead : filter.strip.head? ≠ some '-' := by
    obtain ⟨hkey, -⟩ := fieldFilter_eq_ok_iff.mp h
    obtain ⟨c, rest, rfl, hc⟩ := hkey.exists_cons
    rw [strip_filter h, List.cons_append, List.head?_cons, ne_eq, Option.some.injEq]
    exact (isInert_of_isAsciiWord hc).2.2
  have hne : filter.strip ≠ [] := by
    rw [strip_filter h]
    simp
  rw [ofLexeme?_of_head_ne hne hhead, ofBody_filter h]

theorem terms_filter {key value filter : Text} (h : fieldFilter key value = .ok filter) :
    (Query.ofText filter).terms = [⟨false, filterCondition key value⟩] := by
  rw [terms_of_keeps (isSealed_filter h).keeps, ofLexeme?_filter h]
  rfl

/-! ## What is read back -/

theorem fieldCondition_eq_field_iff {key value other : Text} :
    fieldCondition key value = .field key other ↔
      value = other ∧ ¬ (isLevelKey key = true ∧ (Severity.ofName? value).isSome = true) := by
  unfold fieldCondition
  split
  · rename_i hkey hlevel
    simp [hkey, hlevel]
  · rename_i hnot
    have hlevel : ¬ (isLevelKey key = true ∧ (Severity.ofName? value).isSome = true) := by
      rintro ⟨hkey, hsome⟩
      obtain ⟨level, hlevel⟩ := Option.isSome_iff_exists.mp hsome
      exact hnot level hkey hlevel
    simp [hlevel]

theorem keptValue_eq_self_iff {value : Text} :
    keptValue value = value ↔
      needsMarks value = true ∨ ∀ c ∈ value.getLast?, Text.isBlank c = false := by
  unfold keptValue
  split
  · simp [*]
  · rename_i hmarks
    rw [Text.stripEnd_eq_self_iff]
    simp [hmarks]

theorem filterCondition_eq_field_iff {key value : Text} (hne : value ≠ []) :
    filterCondition key value = .field key value ↔ ReadsBack key value := by
  constructor
  · intro h
    unfold filterCondition at h
    split at h
    · cases h
    · rename_i hline
      obtain ⟨hkept, hlevel⟩ := fieldCondition_eq_field_iff.mp h
      rw [hkept] at hline hlevel
      exact ⟨fun hmem => hline (.inr hmem), keptValue_eq_self_iff.mp hkept, hlevel⟩
  · rintro ⟨hline, hend, hlevel⟩
    unfold filterCondition
    rw [keptValue_eq_self_iff.mpr hend, if_neg (by simp [hne, hline])]
    exact fieldCondition_eq_field_iff.mpr ⟨rfl, hlevel⟩

/-- A filter that is written for a field is read as this field, and nothing else, exactly if its
value is one line and keeps its end, and it does not name a level. -/
theorem terms_filter_eq_iff {key value filter : Text} (h : fieldFilter key value = .ok filter) :
    (Query.ofText filter).terms = [⟨false, .field key value⟩] ↔ ReadsBack key value := by
  obtain ⟨-, hne, -⟩ := fieldFilter_eq_ok_iff.mp h
  rw [terms_filter h, ← filterCondition_eq_field_iff hne]
  simp

/-- A line feed inside a value makes its filter a text. -/
theorem terms_filter_of_lineFeed :
    fieldFilter ['k'] ['a', '\n', 'b'] = .ok ['k', ':', 'a', '\n', 'b'] ∧
      (Query.ofText ['k', ':', 'a', '\n', 'b']).terms ≠ [⟨false, .field ['k'] ['a', '\n', 'b']⟩] :=
  ⟨by decide, fun h => ((terms_filter_eq_iff (by decide)).mp h).isLine (by decide)⟩

end LogSieve.Query
