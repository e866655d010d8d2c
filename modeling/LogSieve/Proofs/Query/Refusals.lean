import LogSieve.Proofs.Query.Selection
import LogSieve.Proofs.Query.Spelling
import LogSieve.Proofs.Query.Stability

/-!
# Fields without a filter

No filter is written for a field whose key is no word, whose value is empty, or whose
value holds a quotation mark, a backslash or two dots in a row.  The first of these
fields are in no query at all.  The others may be: `key:""` is read as a field with the
empty value, and a mark, a backslash or dots can be part of a value when they stand at
the right place (`terms_of_refused_fields`).

Which fields are in a query comes down to the spelling behind the colon.  A lexeme that is
read as a field is a key, a colon and a spelling of the value (`IsSpelling`), and a
spelling is the value as it stands or the value between quotation marks.  So the fields
without a filter that a query can ask for are those of `StandsBare` and `StandsInMarks`
(`exists_terms_eq_field_iff_of_refused`), two conditions on the value alone.
-/

namespace LogSieve.Query

/-- What is behind the colon of a key in a lexeme that is read as a field with this value. -/
structure IsSpelling (spelled value : Text) : Prop where
  /-- The lexeme is not cut inside of the spelling. -/
  isKept : ScanState.start.keeps spelled = true
  ne_nil : spelled ≠ []
  isLine : '\n' ∉ spelled
  /-- The end is not stripped off. -/
  keepsEnd : ∀ c ∈ spelled.getLast?, Text.isBlank c = false
  /-- It is no range. -/
  notSpan : ∀ first last, ¬ IsSpan spelled first last
  unquotes : Unquotes spelled value

/-- A value that can be written behind a key as it stands. -/
structure StandsBare (value : Text) : Prop where
  isKept : ScanState.start.keeps value = true
  ne_nil : value ≠ []
  isLine : '\n' ∉ value
  keepsEnd : ∀ c ∈ value.getLast?, Text.isBlank c = false
  notSpan : ∀ first last, ¬ IsSpan value first last
  /-- Marks at both ends would be taken for those of a quotation. -/
  notMarked : ¬ (value.head? = some '"' ∧ value.getLast? = some '"')

/-- A value that can be written behind a key between quotation marks.  Marks of its own change what
is inside and outside of quotations. -/
structure StandsInMarks (value : Text) : Prop where
  isKept : (⟨.quoted, false⟩ : ScanState).keeps value = true
  isLine : '\n' ∉ value
  /-- Between the marks there is something on both sides of any two dots. -/
  noDots : ¬ ['.', '.'] <:+: value

instance (value : Text) : Decidable (StandsBare value) :=
  decidable_of_iff
    (ScanState.start.keeps value = true ∧ value ≠ [] ∧ '\n' ∉ value ∧
      value.getLast?.all (fun c => !Text.isBlank c) = true ∧ rangeOf? value = none ∧
      ¬ (value.head? = some '"' ∧ value.getLast? = some '"'))
    ⟨fun ⟨hkept, hne, hline, hend, hspan, hmarks⟩ =>
      ⟨hkept, hne, hline, by simpa [Option.all_eq_true] using hend,
        rangeOf?_eq_none_iff.mp hspan, hmarks⟩,
    fun h => ⟨h.isKept, h.ne_nil, h.isLine, by simpa [Option.all_eq_true] using h.keepsEnd,
      rangeOf?_eq_none_iff.mpr h.notSpan, h.notMarked⟩⟩

instance (value : Text) : Decidable (StandsInMarks value) :=
  decidable_of_iff
    ((⟨.quoted, false⟩ : ScanState).keeps value = true ∧ '\n' ∉ value ∧ ¬ ['.', '.'] <:+: value)
    ⟨fun ⟨hkept, hline, hdots⟩ => ⟨hkept, hline, hdots⟩,
    fun h => ⟨h.isKept, h.isLine, h.noDots⟩⟩

/-! ## Spellings -/

/-- Between marks the automaton begins inside of a quotation, and it does not cut at a mark. -/
theorem keeps_quoted (value : Text) :
    ScanState.start.keeps ('"' :: value ++ ['"']) =
      (⟨.quoted, false⟩ : ScanState).keeps value := by
  have hopen : ScanState.start.next '"' = ⟨.quoted, false⟩ := rfl
  have hmark : ∀ state : ScanState, state.cutsAt '"' = false := fun _ => cutsAt_eq_false rfl
  rw [List.cons_append, ScanState.keeps, hopen, ScanState.keeps_append]
  simp [ScanState.keeps, hmark]

theorem exists_isSpan_quoted_iff {value : Text} :
    (∃ first last, IsSpan ('"' :: value ++ ['"']) first last) ↔ ['.', '.'] <:+: value := by
  constructor
  · rintro ⟨first, last, hspan⟩
    have hdots : ['.', '.'] <:+: '"' :: value ++ ['"'] := by
      rw [hspan.joins]
      exact ⟨first, last, by simp⟩
    exact Text.pair_isInfix_surround (by decide) hdots
  · rintro ⟨front, back, rfl⟩
    exact ⟨'"' :: front, back ++ ['"'], by simp, by simp, by simp⟩

/-- A spelling is the value as it stands or between quotation marks. -/
theorem exists_isSpelling_iff {value : Text} :
    (∃ spelled, IsSpelling spelled value) ↔ StandsBare value ∨ StandsInMarks value := by
  constructor
  · rintro ⟨spelled, hkept, hne, hline, hend, hspan, hunquotes⟩
    cases hunquotes with
    | marks =>
        refine .inr ⟨keeps_quoted value ▸ hkept, fun hmem => hline (by simp [hmem]), fun hdots => ?_⟩
        obtain ⟨first, last, h⟩ := exists_isSpan_quoted_iff.mpr hdots
        exact hspan first last h
    | mark =>
        -- a single mark stands for the empty value, and so do two
        exact .inr (by decide)
    | bare hmarks => exact .inl ⟨hkept, hne, hline, hend, hspan, hmarks⟩
  · rintro (hbare | ⟨hkept, hline, hdots⟩)
    · exact ⟨value, hbare.isKept, StandsBare.ne_nil hbare, hbare.isLine, hbare.keepsEnd,
        hbare.notSpan, .bare hbare.notMarked⟩
    · refine ⟨'"' :: value ++ ['"'], keeps_quoted value ▸ hkept, by simp, by simpa using hline, ?_,
        fun first last h => hdots (exists_isSpan_quoted_iff.mp ⟨first, last, h⟩), .marks value⟩
      simpa [List.getLast?_cons] using by decide

example : StandsBare "C:\\a\"b..".toList := by decide

/-! ## Fields in a query -/

/-- Behind a key the automaton is at its start. -/
theorem IsKey.keeps_append {key : Text} (h : IsKey key) (spelled : Text) :
    ScanState.start.keeps (key ++ ':' :: spelled) = ScanState.start.keeps spelled := by
  have hcolon : IsSealed [':'] := .of_all (by decide)
  have hsealed := h.isSealed.append hcolon
  rw [← List.singleton_append, ← List.append_assoc, ScanState.keeps_append, hsealed.keeps,
    hsealed.closed, Bool.true_and]

/-- A lexeme that is read as a field is a key with a spelling of the value. -/
theorem exists_isSpelling_of_mem_lexemes {raw lexeme key value : Text}
    (hmem : lexeme ∈ lexemes raw)
    (hread : Term.ofLexeme? lexeme = some ⟨false, .field key value⟩) :
    IsKey key ∧ ¬ NamesLevel key value ∧ ∃ spelled, IsSpelling spelled value := by
  obtain ⟨hne, piece, -, hstrip⟩ := exists_piece_of_mem_lexemes hmem
  have hdash : lexeme.head? ≠ some '-' := by
    rw [ofLexeme?_eq hne] at hread
    simpa using congrArg Term.negated (Option.some.inj hread)
  have hreads := reads_of_ofLexeme? hread
  have hend := getLast?_ne_of_mem_lexemes hmem
  have hkept := keeps_of_mem_lexemes hmem
  rw [withoutDash_of_head_ne hdash] at hreads hend
  cases hreads with
  | @field _ spelled _ hkeyed hspan hunquotes hlevel =>
      rw [hkeyed.eq_append hend] at hkept hstrip
      refine ⟨hkeyed.isKey, hlevel, spelled, hkeyed.isKey.keeps_append spelled ▸ hkept,
        hkeyed.ne_nil, hkeyed.isLine, fun c hc => ?_, hspan, hunquotes⟩
      -- the lexeme ends as the spelling does, and it is stripped
      apply Text.getLast?_strip (t := piece)
      rw [← hstrip]
      simp [List.getLast?_append, List.getLast?_cons, Option.mem_def.mp hc]

/-- A key with a spelling of a value is a query for this field. -/
theorem terms_of_isSpelling {key spelled value : Text} (hkey : IsKey key)
    (hlevel : ¬ NamesLevel key value) (h : IsSpelling spelled value) :
    (Query.ofText (key ++ ':' :: spelled)).terms = [⟨false, .field key value⟩] := by
  have hkeyed : IsKeyed (key ++ ':' :: spelled) key spelled :=
    ⟨hkey, .inl rfl, h.ne_nil, h.isLine⟩
  obtain ⟨c, hc, hblank, hdash⟩ := hkey.starts (':' :: spelled)
  have hread : Term.ofLexeme? (key ++ ':' :: spelled) = some ⟨false, .field key value⟩ := by
    rw [ofLexeme?_of_head_ne (by simp) (by simpa [Option.mem_def.mp hc] using hdash),
      (Reads.field hkeyed h.notSpan h.unquotes hlevel).ofBody_eq]
  have hstrip : (key ++ ':' :: spelled).strip = key ++ ':' :: spelled := by
    refine Text.strip_eq_self (by simpa [Option.mem_def.mp hc] using hblank) fun d hd => ?_
    rcases Text.mem_getLast?_append_cons hd with rfl | hd
    · decide
    · exact h.keepsEnd d hd
  have hkept : ScanState.start.keeps (key ++ ':' :: spelled) = true := by
    rw [hkey.keeps_append, h.isKept]
  rw [terms_of_keeps hkept, hstrip, hread]
  rfl

/-- The fields that a query can ask for, and nothing else. -/
theorem exists_terms_eq_field_iff {key value : Text} :
    (∃ raw, (Query.ofText raw).terms = [⟨false, .field key value⟩]) ↔
      IsKey key ∧ ¬ NamesLevel key value ∧ (StandsBare value ∨ StandsInMarks value) := by
  rw [← exists_isSpelling_iff]
  constructor
  · rintro ⟨raw, hterms⟩
    have hmem : ⟨false, .field key value⟩ ∈ (lexemes raw).filterMap Term.ofLexeme? := by
      rw [← terms_ofText, hterms]
      exact List.mem_singleton_self _
    obtain ⟨lexeme, hlexeme, hread⟩ := List.mem_filterMap.mp hmem
    exact exists_isSpelling_of_mem_lexemes hlexeme hread
  · rintro ⟨hkey, hlevel, spelled, hspelling⟩
    exact ⟨key ++ ':' :: spelled, terms_of_isSpelling hkey hlevel hspelling⟩

/-! ## Fields without a filter -/

/-- The values that no filter is written for are no names of levels. -/
theorem not_namesLevel_of_refused {key value : Text} {fault : FilterFault} (hkey : IsKey key)
    (h : fieldFilter key value = .error fault) : ¬ NamesLevel key value := by
  have hname : Severity.ofName? value = none := by
    by_cases hne : value = []
    · exact ofName?_eq_none_of_not_line (.inl hne)
    · have hwritable : ¬ isWritable value = true := by
        intro hwritable
        rw [fieldFilter_eq_ok_iff.mpr ⟨hkey, hne, hwritable, rfl⟩] at h
        cases h
      rw [isWritable_iff, not_and_or, not_and_or, not_not, not_not, not_not] at hwritable
      rcases hwritable with hquote | hbackslash | hdots
      · exact ofName?_eq_none_of_mem (by decide) (by decide) (by decide) hquote
      · exact ofName?_eq_none_of_mem (by decide) (by decide) (by decide) hbackslash
      · have hdot : '.' ∈ value := hdots.subset (by simp)
        exact ofName?_eq_none_of_mem (by decide) (by decide) (by decide) hdot
  simp [namesLevel_iff, hname]

/-- A field that no filter is written for is in a query exactly if its key is a word and its value
can stand behind a key, bare or between quotation marks. -/
theorem exists_terms_eq_field_iff_of_refused {key value : Text} {fault : FilterFault}
    (h : fieldFilter key value = .error fault) :
    (∃ raw, (Query.ofText raw).terms = [⟨false, .field key value⟩]) ↔
      IsKey key ∧ (StandsBare value ∨ StandsInMarks value) := by
  rw [exists_terms_eq_field_iff]
  constructor
  · rintro ⟨hkey, -, hstands⟩
    exact ⟨hkey, hstands⟩
  · rintro ⟨hkey, hstands⟩
    exact ⟨hkey, not_namesLevel_of_refused hkey h, hstands⟩

/-- A value with a quotation inside can be put between marks, and two dots with something on both
sides of them cannot be in a field. -/
theorem exists_terms_eq_field_iff_of_quotation :
    (fieldFilter "msg".toList "say \"hi\"".toList =
        .error (.unusableValue "msg".toList "say \"hi\"".toList) ∧
      ∃ raw, (Query.ofText raw).terms =
        [⟨false, .field "msg".toList "say \"hi\"".toList⟩]) ∧
      fieldFilter "version".toList "1..2".toList =
        .error (.unusableValue "version".toList "1..2".toList) ∧
      ¬ ∃ raw, (Query.ofText raw).terms = [⟨false, .field "version".toList "1..2".toList⟩] := by
  have hquotation : fieldFilter "msg".toList "say \"hi\"".toList =
      .error (.unusableValue "msg".toList "say \"hi\"".toList) := by decide
  have hdots : fieldFilter "version".toList "1..2".toList =
      .error (.unusableValue "version".toList "1..2".toList) := by decide
  have hkey : IsKey "msg".toList := isKey_iff.mpr (by decide)
  refine ⟨⟨hquotation, ?_⟩, hdots, ?_⟩
  · exact (exists_terms_eq_field_iff_of_refused hquotation).mpr ⟨hkey, .inr (by decide)⟩
  · rw [exists_terms_eq_field_iff_of_refused hdots]
    rintro ⟨-, hbare | hmarks⟩
    · exact hbare.notSpan ['1'] ['2'] ⟨rfl, by decide, by decide⟩
    · exact hmarks.noDots ⟨['1'], ['2'], rfl⟩

/-- No filter is written for these two fields, but there are queries for them: the empty value stands
between marks, and a value with a mark, a backslash and two dots as it is. -/
theorem terms_of_refused_fields :
    (fieldFilter ['k'] [] = .error (.emptyValue ['k']) ∧
      (Query.ofText "k:\"\"".toList).terms = [⟨false, .field ['k'] []⟩]) ∧
      fieldFilter ['k'] "C:\\a\"b..".toList =
        .error (.unusableValue ['k'] "C:\\a\"b..".toList) ∧
      (Query.ofText "k:C:\\a\"b..".toList).terms =
        [⟨false, .field ['k'] "C:\\a\"b..".toList⟩] := by
  refine ⟨⟨rfl, ?_⟩, by decide, ?_⟩
  · rw [terms_ofText, lexemes_eq]
    decide
  · rw [terms_ofText, lexemes_eq]
    decide

end LogSieve.Query
