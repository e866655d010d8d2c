import LogSieve.Proofs.Query.Filters
import LogSieve.Query.Badge

/-!
# Printing queries

A term is written as its label, and a field as its filter.  Not every term can be
written: `Condition.IsPrintable` lists the payloads that every reader of the text
leaves alone.  Printable terms joined by single spaces are read back one by one, in
order and with their negations (`terms_joinWith_printed`).

Each kind of condition has to keep two promises, stated together in `Prints`: its
text is sealed, so that it neither is cut nor swallows its neighbours, and it is
read as the condition.
-/

namespace LogSieve.Query

/-- A condition as it is written in a query. -/
def Condition.printed : Condition → Text
  | .field key value =>
    match fieldFilter key value with
    | .ok filter => filter
    | .error _ => (Condition.field key value).label
  | condition => condition.label

/-- A term as it is written in a query. -/
def Term.printed (term : Term) : Text :=
  if term.negated then '-' :: term.condition.printed else term.condition.printed

/-- Whether a text that stands behind the opening slash of a pattern is all inside the pattern. -/
def isPatternBody (escaped : Bool) : Text → Bool
  | [] => !escaped
  | c :: rest =>
    if escaped then isPatternBody false rest
    else if c = '\\' then isPatternBody true rest
    else c != '/' && c != '"' && isPatternBody false rest

/-- A text that can be an end of a range. -/
structure IsRangeEnd (text : Text) : Prop where
  ne_nil : text ≠ []
  isPlain : ∀ c ∈ text, Text.isBlank c = false ∧ c ≠ '"' ∧ c ≠ '/' ∧ c ≠ '\\'

/-- The conditions that can be written in a query. -/
inductive Condition.IsPrintable : Condition → Prop
  | text {value : Text} (hne : value ≠ []) (hquote : '"' ∉ value) (hbackslash : '\\' ∉ value) :
      IsPrintable (.text value)
  | pattern {body flags : Text} (hbody : isPatternBody false body = true)
      (hflags : ∀ c ∈ flags, isPatternFlag c = true) : IsPrintable (.pattern body flags)
  | range {key first last : Text} (hkey : IsKey key) (hfirst : IsRangeEnd first)
      (hlast : IsRangeEnd last) (hdots : ¬ ['.', '.'] <:+: first)
      (hend : first.getLast? ≠ some '.')
      (hlevel : ¬ (isLevelKey key = true ∧ (Severity.ofName? first).isSome = true ∧
        (Severity.ofName? last).isSome = true)) : IsPrintable (.range key first last)
  | level (severity : Severity) : IsPrintable (.level [severity])
  | field {key value filter : Text} (hfilter : fieldFilter key value = .ok filter)
      (hback : ReadsBack key value) : IsPrintable (.field key value)

/-- A text that is read as a condition, whatever stands around it. -/
structure Prints (text : Text) (condition : Condition) : Prop where
  isSealed : IsSealed text
  starts : ∃ c ∈ text.head?, Text.isBlank c = false ∧ c ≠ '-'
  ends : ∀ c ∈ text.getLast?, Text.isBlank c = false
  reads : Condition.ofBody text = condition

/-! ## Texts -/

theorem prints_text {value : Text} (hne : value ≠ []) (hquote : '"' ∉ value)
    (hbackslash : '\\' ∉ value) : Prints ('"' :: value ++ ['"']) (.text value) where
  isSealed := .quoted hquote hbackslash
  starts := ⟨'"', rfl, by decide, by decide⟩
  ends := by simpa [List.getLast?_cons] using by decide
  reads := ofBody_quoted hne

/-! ## Patterns -/

/-- Inside a pattern whatever is not a closing slash or a quotation mark keeps the automaton there;
the escape flag runs along. -/
theorem kept_in_pattern {body : Text} {escaped : Bool} (h : isPatternBody escaped body = true) :
    (⟨.pattern, escaped⟩ : ScanState).keeps body = true ∧
      (⟨.pattern, escaped⟩ : ScanState).after body = ⟨.pattern, false⟩ := by
  have hcut : ∀ e c, (⟨.pattern, e⟩ : ScanState).cutsAt c = false := by
    intro e c
    simpa using (cutsAt_mk .pattern e c).not
  fun_induction isPatternBody escaped body with
  | case1 escaped =>
      obtain rfl : escaped = false := by simpa using h
      exact ⟨rfl, rfl⟩
  | case2 c rest ih =>
      obtain ⟨hkeeps, hafter⟩ := ih h
      exact ⟨by simpa [ScanState.keeps, hcut, ScanState.next] using hkeeps, hafter⟩
  | case3 escaped rest hescaped ih =>
      obtain rfl : escaped = false := by simpa using hescaped
      obtain ⟨hkeeps, hafter⟩ := ih h
      exact ⟨by simpa [ScanState.keeps, hcut, ScanState.next] using hkeeps, hafter⟩
  | case4 escaped c rest hescaped hbackslash ih =>
      obtain rfl : escaped = false := by simpa using hescaped
      simp only [Bool.and_eq_true, bne_iff_ne] at h
      obtain ⟨⟨hslash, hquote⟩, hrest⟩ := h
      obtain ⟨hkeeps, hafter⟩ := ih hrest
      have hnext : (⟨.pattern, false⟩ : ScanState).next c = ⟨.pattern, false⟩ :=
        next_of_ordinary hbackslash hquote (by simp) (by simp [hslash])
      simp [ScanState.keeps, hcut, hnext, hkeeps, hafter]

theorem prints_pattern {body flags : Text} (hbody : isPatternBody false body = true)
    (hflags : ∀ c ∈ flags, isPatternFlag c = true) :
    Prints ('/' :: body ++ '/' :: flags) (.pattern body flags) := by
  obtain ⟨hkeeps, hafter⟩ := kept_in_pattern hbody
  obtain ⟨hflagsKept, hflagsAfter⟩ := flags_kept hflags
  have hopen : ScanState.start.next '/' = ⟨.pattern, false⟩ := rfl
  have hclose : (⟨.pattern, false⟩ : ScanState).next '/' = .start := rfl
  have hblank : ∀ c ∈ flags, Text.isBlank c = false ∧ c ≠ '/' := by
    intro c hc
    have hflag := hflags c hc
    simp only [isPatternFlag, List.contains_cons, List.contains_nil, Bool.or_false,
      Bool.or_eq_true, beq_iff_eq] at hflag
    rcases hflag with rfl | rfl | rfl | rfl | rfl | rfl <;> decide
  refine ⟨⟨?_, ?_⟩, ⟨'/', rfl, by decide, by decide⟩, ?_, ?_⟩
  · rw [List.cons_append, ScanState.keeps, hopen, ScanState.keeps_append, hkeeps, hafter,
      ScanState.keeps, hclose, hflagsKept]
    rfl
  · rw [IsClosed, List.cons_append, ScanState.after_cons, hopen, ScanState.after_append, hafter,
      ScanState.after_cons, hclose, hflagsAfter]
  · intro c hc
    rcases Text.mem_getLast?_append_cons hc with rfl | hc
    · decide
    · exact (hblank c (List.mem_of_getLast? hc)).1
  · exact ofBody_pattern (fun hmem => (hblank '/' hmem).2 rfl) body

/-! ## Keys and what follows them -/

theorem IsKey.starts {key : Text} (h : IsKey key) (rest : Text) :
    ∃ c ∈ (key ++ rest).head?, Text.isBlank c = false ∧ c ≠ '-' := by
  obtain ⟨c, tail, rfl, hc⟩ := h.exists_cons
  exact ⟨c, rfl, (isInert_of_isAsciiWord hc).2⟩

theorem IsRangeEnd.isInert {text : Text} (h : IsRangeEnd text) {c : Char} (hc : c ∈ text) :
    isInert c = true := by
  obtain ⟨hblank, hquote, hslash, hbackslash⟩ := h.isPlain c hc
  have hseparator : isSeparator c = false := by
    rw [Bool.eq_false_iff]
    intro hsep
    simp only [isSeparator, Bool.or_eq_true, beq_iff_eq] at hsep
    rcases hsep with rfl | rfl
    · exact absurd hblank (by decide)
    · exact absurd hblank (by decide)
  simp [Query.isInert, hquote, hslash, hbackslash, hseparator]

theorem rangeCondition_eq_range {key first last : Text}
    (h : ¬ (isLevelKey key = true ∧ (Severity.ofName? first).isSome = true ∧
      (Severity.ofName? last).isSome = true)) :
    rangeCondition key first last = .range key first last := by
  unfold rangeCondition
  split
  · rename_i hkey hlow hhigh
    exact absurd ⟨hkey, by simp [hlow], by simp [hhigh]⟩ h
  · rfl

theorem prints_range {key first last : Text} (hkey : IsKey key) (hfirst : IsRangeEnd first)
    (hlast : IsRangeEnd last) (hdots : ¬ ['.', '.'] <:+: first) (hend : first.getLast? ≠ some '.')
    (hlevel : ¬ (isLevelKey key = true ∧ (Severity.ofName? first).isSome = true ∧
      (Severity.ofName? last).isSome = true)) :
    Prints (key ++ ':' :: (first ++ '.' :: '.' :: last)) (.range key first last) := by
  have hmem : ∀ c ∈ ':' :: (first ++ '.' :: '.' :: last),
      isInert c = true ∧ Text.isBlank c = false := by
    intro c hc
    simp only [List.mem_cons, List.mem_append] at hc
    rcases hc with rfl | hc | rfl | rfl | hc
    · decide
    · exact ⟨hfirst.isInert hc, (hfirst.isPlain c hc).1⟩
    · decide
    · decide
    · exact ⟨hlast.isInert hc, (hlast.isPlain c hc).1⟩
  have hline : '\n' ∉ first ++ '.' :: '.' :: last := fun hc =>
    absurd (hmem '\n' (List.mem_cons_of_mem _ hc)).2 (by decide)
  refine ⟨hkey.isSealed.append (.of_inert fun c hc => (hmem c hc).1), hkey.starts _, ?_, ?_⟩
  · intro c hc
    rw [List.getLast?_append_of_ne_nil _ (by simp)] at hc
    exact (hmem c (List.mem_of_getLast? hc)).2
  · rw [ofBody_range hkey hfirst.ne_nil hdots hend hlast.ne_nil hline,
      rangeCondition_eq_range hlevel]

/-- A level is written like the field of a key. -/
theorem prints_level (severity : Severity) :
    Prints ("level:".toList ++ severity.name) (.level [severity]) := by
  have hkey : IsKey "level".toList := isKey_iff.mpr (by decide)
  have hlevel : isLevelKey "level".toList = true := by decide
  have hname : severity.name ≠ [] ∧ '\n' ∉ severity.name ∧ ¬ ['.', '.'] <:+: severity.name ∧
      severity.name.head? ≠ some '"' ∧ Severity.ofName? severity.name = some severity := by
    cases severity <;> decide
  obtain ⟨hne, hline, hdots, hhead, hofName⟩ := hname
  have hinert : ("level:".toList ++ severity.name).all isInert = true := by
    cases severity <;> decide
  have hend : ("level:".toList ++ severity.name).getLast?.all (fun c => !Text.isBlank c) = true := by
    cases severity <;> decide
  refine ⟨.of_all hinert, ⟨'l', rfl, by decide, by decide⟩, ?_, ?_⟩
  · intro c hc
    simpa using (Option.all_eq_true _ _).mp hend c hc
  · have hread := ofBody_value hkey hne hline hdots
    rw [unquote_of_head_ne hhead] at hread
    rw [fieldCondition, hlevel, hofName] at hread
    exact hread

theorem prints_field {key value filter : Text} (hfilter : fieldFilter key value = .ok filter)
    (hback : ReadsBack key value) : Prints filter (.field key value) := by
  obtain ⟨hkey, hne, -, hfilterEq⟩ := fieldFilter_eq_ok_iff.mp hfilter
  have hkept : lexemeValue value = writtenValue value := by
    have hend := keptValue_eq_self_iff.mpr hback.keepsEnd
    unfold keptValue at hend
    unfold lexemeValue writtenValue
    split
    · rfl
    · simpa [*] using hend
  have hstrip : filter.strip = filter := by
    rw [strip_filter hfilter, hkept, ← hfilterEq]
  have hstarts := hkey.starts (':' :: writtenValue value)
  rw [← hfilterEq] at hstarts
  refine ⟨isSealed_filter hfilter, hstarts, ?_, ?_⟩
  · intro c hc
    rw [← hstrip] at hc
    exact Text.getLast?_strip hc
  · rw [← (filterCondition_eq_field_iff hne).mpr hback, ← ofBody_filter hfilter, hstrip]

/-! ## Printed queries -/

theorem Condition.IsPrintable.prints {condition : Condition} (h : condition.IsPrintable) :
    Prints condition.printed condition := by
  cases h with
  | text hne hquote hbackslash => exact prints_text hne hquote hbackslash
  | pattern hbody hflags => exact prints_pattern hbody hflags
  | @range key first last hkey hfirst hlast hdots hend hlevel =>
      have hlabel : (Condition.range key first last).printed =
          key ++ ':' :: (first ++ '.' :: '.' :: last) := by
        show key ++ ':' :: first ++ ['.', '.'] ++ last = _
        simp
      rw [hlabel]
      exact prints_range hkey hfirst hlast hdots hend hlevel
  | level severity => exact prints_level severity
  | @field key value filter hfilter hback =>
      have hprinted : (Condition.field key value).printed = filter := by
        simp only [Condition.printed, hfilter]
      rw [hprinted]
      exact prints_field hfilter hback

/-- A dash in front of a printed condition negates it and changes nothing else. -/
theorem Prints.dash {text : Text} {condition : Condition} (h : Prints text condition) :
    IsSealed ('-' :: text) ∧ Text.strip ('-' :: text) = '-' :: text := by
  have hdash : IsSealed ['-'] := .of_all (by decide)
  exact ⟨hdash.append h.isSealed, Text.strip_cons_eq_self (by decide) h.ends⟩

theorem Prints.strip_eq {text : Text} {condition : Condition} (h : Prints text condition) :
    text.strip = text := by
  obtain ⟨c, hc, hblank, -⟩ := h.starts
  exact Text.strip_eq_self (by simpa [Option.mem_def.mp hc] using hblank) h.ends

theorem Prints.ofLexeme?_eq {text : Text} {condition : Condition} (h : Prints text condition) :
    Term.ofLexeme? text = some ⟨false, condition⟩ := by
  obtain ⟨c, hc, -, hdash⟩ := h.starts
  have hne : text ≠ [] := by
    rintro rfl
    cases hc
  rw [ofLexeme?_of_head_ne hne (by simpa [Option.mem_def.mp hc] using hdash), h.reads]

/-- A printed condition alone is a query with this condition. -/
theorem Prints.terms_ofText {text : Text} {condition : Condition} (h : Prints text condition) :
    (Query.ofText text).terms = [⟨false, condition⟩] := by
  rw [terms_of_keeps h.isSealed.keeps, h.strip_eq, h.ofLexeme?_eq]
  rfl

theorem Term.printed_spec {term : Term} (h : term.condition.IsPrintable) :
    IsSealed term.printed ∧ Term.ofLexeme? term.printed.strip = some term := by
  obtain ⟨negated, condition⟩ := term
  have hprints : Prints condition.printed condition := h.prints
  cases negated with
  | true =>
      obtain ⟨hsealed, hstrip⟩ := hprints.dash
      refine ⟨hsealed, ?_⟩
      rw [show Term.printed ⟨true, condition⟩ = '-' :: condition.printed from rfl, hstrip,
        ofLexeme?_dash, hprints.reads]
  | false =>
      refine ⟨hprints.isSealed, ?_⟩
      rw [show Term.printed ⟨false, condition⟩ = condition.printed from rfl, hprints.strip_eq,
        hprints.ofLexeme?_eq]

/-- Printable terms joined by single spaces are a query with exactly these terms. -/
theorem terms_joinWith_printed {terms : List Term}
    (h : ∀ term ∈ terms, term.condition.IsPrintable) :
    (Query.ofText (Text.joinWith [' '] (terms.map Term.printed))).terms = terms := by
  have hsealed : ∀ text ∈ terms.map Term.printed, IsSealed text := by
    intro text htext
    obtain ⟨term, hterm, rfl⟩ := List.mem_map.mp htext
    exact (Term.printed_spec (h term hterm)).1
  rw [terms_joinWith hsealed, List.filterMap_map]
  calc terms.filterMap ((fun text => Term.ofLexeme? (Text.strip text)) ∘ Term.printed)
      = terms.filterMap some :=
        List.filterMap_congr fun term hterm => (Term.printed_spec (h term hterm)).2
    _ = terms := List.filterMap_some

/-- One term of each kind, with payloads that look like other kinds. -/
def mixedTerms : List Term := [
  ⟨true, .text "a/b -c".toList⟩, ⟨false, .pattern "x\\/ y".toList "gi".toList⟩,
  ⟨false, .range "took".toList ['.', '5'] ['.', '9']⟩, ⟨true, .level [.warn]⟩,
  ⟨false, .field "path".toList "/a b".toList⟩]

theorem terms_mixedTerms :
    (Query.ofText "-\"a/b -c\" /x\\/ y/gi took:.5...9 -level:warn path:\"/a b\"".toList).terms =
      mixedTerms := by
  have hprinted : Text.joinWith [' '] (mixedTerms.map Term.printed) =
      "-\"a/b -c\" /x\\/ y/gi took:.5...9 -level:warn path:\"/a b\"".toList := by
    decide
  rw [← hprinted]
  apply terms_joinWith_printed
  simp only [mixedTerms, List.forall_mem_cons]
  refine ⟨?_, ?_, ?_, ?_, ?_, by simp⟩
  · exact .text (by decide) (by decide) (by decide)
  · exact .pattern (by decide) (List.all_eq_true.mp (by decide))
  · have hkey : IsKey "took".toList := isKey_iff.mpr (by decide)
    have hfirst : IsRangeEnd ['.', '5'] := ⟨by decide, by simp; decide⟩
    have hlast : IsRangeEnd ['.', '9'] := ⟨by decide, by simp; decide⟩
    exact .range hkey hfirst hlast (by decide) (by decide) (by decide)
  · exact .level .warn
  · exact .field rfl ⟨by decide, .inl rfl, by decide⟩

end LogSieve.Query
