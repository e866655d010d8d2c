import LogSieve.Proofs.Query.Grammar
import LogSieve.Query.Badge

/-!
# Labels as queries

A badge shows a term written again as a query.  Read back, this label gives the same term
unless the writing drops something: a field loses the quotation marks that its lexeme had,
a text always gets some, and only a single level has a name that a lexeme can hold.  Hence
the three exceptions of `Condition.IsMislabelled`, and there are no others
(`ofLexeme?_label_iff`).

The question is one of the grammar alone: whether it derives a condition for its own label,
given that it derives it for some lexeme (`Reads.label_iff`).
-/

namespace LogSieve.Query

/-- The conditions whose label does not write them. -/
def Condition.IsMislabelled : Condition → Prop
  | .text value => value = []
  | .field _ value => value = [] ∨ (value.head? = some '"' ∧ value.getLast? = some '"')
  | .level levels => levels.length ≠ 1
  | .range .. => False
  | .pattern .. => False

theorem label_field (key value : Text) :
    (Condition.field key value).label = key ++ ':' :: value := rfl

theorem label_range (key first last : Text) :
    (Condition.range key first last).label = key ++ ':' :: (first ++ '.' :: '.' :: last) := by
  show key ++ ':' :: first ++ ['.', '.'] ++ last = _
  simp

/-! ## Texts and levels -/

theorem reads_label_text_iff {value : Text} :
    Reads (Condition.text value).label (.text value) ↔ value ≠ [] := by
  rw [← ofBody_eq_iff]
  constructor
  · rintro h rfl
    exact absurd h (by decide)
  · exact ofBody_quoted

theorem dot_not_mem_label_level (levels : List Severity) :
    '.' ∉ (Condition.level levels).label := by
  have hname : ∀ severity : Severity, '.' ∉ severity.name := by
    intro severity
    cases severity <;> decide
  have hnames : '.' ∉ Text.joinWith [','] (levels.map Severity.name) := by
    induction levels with
    | nil => simp [Text.joinWith]
    | cons severity others ih =>
        cases others with
        | nil => exact hname severity
        | cons second rest =>
            rw [List.map_cons, Text.joinWith_cons _ _ (by simp)]
            simp only [List.mem_append, not_or]
            exact ⟨⟨hname severity, by decide⟩, ih⟩
  have hkey : '.' ∉ "level:".toList := by decide
  intro hmem
  rcases List.mem_append.mp hmem with hmem | hmem
  · exact hkey hmem
  · exact hnames hmem

/-- A range would need dots, and without one there is a single level. -/
theorem reads_label_level_iff {levels : List Severity} :
    Reads (Condition.level levels).label (.level levels) ↔ levels.length = 1 := by
  constructor
  · have hdot := dot_not_mem_label_level levels
    generalize (Condition.level levels).label = label at hdot ⊢
    intro h
    cases h with
    | levels hkeyed hspan =>
        exfalso
        apply hdot
        rcases hkeyed.joins with rfl | rfl
        · rw [hspan.joins]
          simp
        · rw [hspan.joins]
          simp
    | level => rfl
  · intro h
    obtain ⟨severity, rfl⟩ := List.length_eq_one_iff.mp h
    exact ofBody_eq_iff.mp (prints_level severity).reads

/-! ## Fields -/

/-- Nothing is inside of quotation marks that is not in the text. -/
theorem Unquotes.mem {value content : Text} (h : Unquotes value content) {c : Char}
    (hc : c ∈ content) : c ∈ value := by
  cases h with
  | marks content => simp [hc]
  | mark => cases hc
  | bare => exact hc

theorem Unquotes.exists_isSpan {value content first last : Text} (h : Unquotes value content)
    (hspan : IsSpan content first last) : ∃ first' last', IsSpan value first' last' := by
  cases h with
  | marks content =>
      refine ⟨'"' :: first, last ++ ['"'], ?_, by simp, by simp⟩
      rw [hspan.joins]
      simp
  | mark => exact absurd rfl hspan.ne_nil
  | bare => exact ⟨first, last, hspan⟩

/-- Only texts without marks at both ends are their own inside. -/
theorem unquotes_self_iff {value : Text} :
    Unquotes value value ↔ ¬ (value.head? = some '"' ∧ value.getLast? = some '"') := by
  constructor
  · intro h hmarks
    have hself : unquote value = value := unquotes_iff.mp h
    rcases eq_mark_or_marks hmarks.1 hmarks.2 with rfl | ⟨content, rfl⟩
    · cases hself
    · rw [unquote_quoted] at hself
      have hlength := congrArg List.length hself
      simp only [List.length_append, List.length_cons, List.length_nil] at hlength
      omega
  · exact .bare

/-- Behind the key of a label stands the value alone. -/
theorem IsKeyed.eq_of_append {key value value' : Text} (h : IsKeyed (key ++ ':' :: value) key value')
    (hline : '\n' ∉ value) : value' = value := by
  rcases h.joins with hjoins | hjoins
  · simpa using hjoins.symm
  · have hvalue : value = value' ++ ['\n'] := by simpa using hjoins
    exact absurd (by simp [hvalue]) hline

theorem reads_label_field_iff {body key value content : Text} (hkeyed : IsKeyed body key value)
    (hspan : ∀ first last, ¬ IsSpan value first last) (hcontent : Unquotes value content)
    (hlevel : ¬ NamesLevel key content) :
    Reads (Condition.field key content).label (.field key content) ↔
      ¬ (Condition.field key content).IsMislabelled := by
  have hline : '\n' ∉ content := fun hmem => hkeyed.isLine (hcontent.mem hmem)
  constructor
  · intro h
    rw [label_field] at h
    generalize hlabel : key ++ ':' :: content = label at h
    cases h with
    | field hkeyed' _ hcontent' =>
        subst hlabel
        obtain rfl := hkeyed'.eq_of_append hline
        rintro (hnil | hmarks)
        · exact hkeyed'.ne_nil hnil
        · exact unquotes_self_iff.mp hcontent' hmarks
  · intro h
    simp only [Condition.IsMislabelled, not_or] at h
    obtain ⟨hne, hmarks⟩ := h
    refine .field ⟨hkeyed.isKey, .inl rfl, hne, hline⟩ ?_ (.bare hmarks) hlevel
    intro first last hcut
    obtain ⟨first', last', hcut'⟩ := hcontent.exists_isSpan hcut
    exact hspan first' last' hcut'

/-! ## Terms -/

/-- The grammar derives a condition for its label unless the condition is mislabelled. -/
theorem Reads.label_iff {body : Text} {condition : Condition} (h : Reads body condition) :
    Reads condition.label condition ↔ ¬ condition.IsMislabelled := by
  cases h with
  | pattern h => exact iff_of_true (.pattern ⟨rfl, h.isLast⟩) id
  | levels => exact reads_label_level_iff.trans not_not.symm
  | @range key value first last hkeyed hspan hlevels =>
      rw [label_range, ← hspan.joins]
      exact iff_of_true
        (.range ⟨hkeyed.isKey, .inl rfl, hkeyed.ne_nil, hkeyed.isLine⟩ hspan hlevels) id
  | level => exact reads_label_level_iff.trans not_not.symm
  | field hkeyed hspan hcontent hlevel =>
      exact reads_label_field_iff hkeyed hspan hcontent hlevel
  | quotation => exact reads_label_text_iff
  | text => exact reads_label_text_iff

/-- No label starts with a dash of its own. -/
theorem Reads.head?_label {body : Text} {condition : Condition} (h : Reads body condition) :
    ∃ c ∈ condition.label.head?, c ≠ '-' := by
  have hkey : ∀ {key : Text}, IsKey key → ∀ rest, ∃ c ∈ (key ++ rest).head?, c ≠ '-' := by
    intro key hkey rest
    obtain ⟨c, hc, -, hdash⟩ := hkey.starts rest
    exact ⟨c, hc, hdash⟩
  cases h with
  | pattern => exact ⟨'/', rfl, by decide⟩
  | levels => exact ⟨'l', rfl, by decide⟩
  | range hkeyed =>
      rw [label_range]
      exact hkey hkeyed.isKey _
  | level => exact ⟨'l', rfl, by decide⟩
  | field hkeyed => exact hkey hkeyed.isKey _
  | quotation => exact ⟨'"', rfl, by decide⟩
  | text => exact ⟨'"', rfl, by decide⟩

theorem ofLexeme?_label {body : Text} {term : Term} (h : Reads body term.condition) :
    Term.ofLexeme? term.label = some ⟨term.negated, Condition.ofBody term.condition.label⟩ := by
  obtain ⟨negated, condition⟩ := term
  cases negated with
  | true => exact ofLexeme?_dash condition.label
  | false =>
      obtain ⟨c, hc, hdash⟩ := h.head?_label
      have hhead : condition.label.head? = some c := hc
      have hne : condition.label ≠ [] := by
        intro hnil
        rw [hnil] at hhead
        cases hhead
      have hnotDash : condition.label.head? ≠ some '-' := by
        rw [hhead]
        simpa using hdash
      exact ofLexeme?_of_head_ne hne hnotDash

/-- The label of a term that a lexeme writes is read as the term, unless the term is mislabelled. -/
theorem ofLexeme?_label_iff {lexeme : Text} {term : Term}
    (h : Term.ofLexeme? lexeme = some term) :
    Term.ofLexeme? term.label = some term ↔ ¬ term.condition.IsMislabelled := by
  have hreads : Reads (withoutDash lexeme) term.condition := reads_of_ofLexeme? h
  rw [ofLexeme?_label hreads, ← hreads.label_iff, ← ofBody_eq_iff]
  obtain ⟨negated, condition⟩ := term
  simp

/-- Without its outer marks the value of this field is the name of a level between marks. -/
theorem ofLexeme?_label_markedLevel :
    Term.ofLexeme? "-level:\"\"warn\"\"".toList =
        some ⟨true, .field "level".toList "\"warn\"".toList⟩ ∧
      (Condition.field "level".toList "\"warn\"".toList).IsMislabelled ∧
      Term.ofLexeme? (Term.label ⟨true, .field "level".toList "\"warn\"".toList⟩) ≠
        some ⟨true, .field "level".toList "\"warn\"".toList⟩ := by
  have hread : Term.ofLexeme? "-level:\"\"warn\"\"".toList =
      some ⟨true, .field "level".toList "\"warn\"".toList⟩ := by decide
  have hmarks : (Condition.field "level".toList "\"warn\"".toList).IsMislabelled :=
    .inr ⟨by decide, by decide⟩
  exact ⟨hread, hmarks, fun hback => (ofLexeme?_label_iff hread).mp hback hmarks⟩

end LogSieve.Query
