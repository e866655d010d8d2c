import LogSieve.Proofs.Json.Depth
import LogSieve.Proofs.Pattern.Depth
import LogSieve.Proofs.Report

/-!
# Lines that two callers read alike

Callers leave more or less of the stack, but what is not too deep for either of two of
them is the same to both: the content of a line (`Content.ofLine_eq_of_not_tooDeep`),
and with it the record.  A query asks the same of a record if its patterns are
understood alike (`Query.ReadsAlike`), as they are if none of them is too deep
(`Query.readsAlike_of_fits`).
-/

namespace LogSieve

variable {first second : Stack} {raw : Text}

/-! ## Contents and records -/

theorem Embedded.content?_agrees (h : first.values ≤ second.values) (raw : Text) :
    AgreesUnless .tooDeep (content? first raw) (content? second raw) := by
  unfold content?
  split
  · exact agreesUnless_refl _
  · rename_i object _
    rcases Json.ofText_agrees h object with hdeep | hsame
    · rw [hdeep]
      exact agreesUnless_fault _
    · rw [hsame]
      exact agreesUnless_refl _

theorem Content.ofLine_eq_of_le (h : first.values ≤ second.values)
    (hfirst : ofLine first raw ≠ .error .tooDeep) : ofLine second raw = ofLine first raw := by
  have hcontent : Embedded.content? first raw ≠ .error .tooDeep := by
    intro hdeep
    exact hfirst (by rw [ofLine, hdeep])
  rw [ofLine, ofLine, (Embedded.content?_agrees h raw).eq_of_ne hcontent]

/-- A line that is too deep for neither of two callers has the same content for both. -/
theorem Content.ofLine_eq_of_not_tooDeep (hfirst : ofLine first raw ≠ .error .tooDeep)
    (hsecond : ofLine second raw ≠ .error .tooDeep) : ofLine second raw = ofLine first raw := by
  rcases Nat.le_total first.values second.values with hle | hle
  · exact ofLine_eq_of_le hle hfirst
  · exact (ofLine_eq_of_le hle hsecond).symm

theorem Record.ofLine_eq_of_not_tooDeep (hfirst : Content.ofLine first raw ≠ .error .tooDeep)
    (hsecond : Content.ofLine second raw ≠ .error .tooDeep) (number : Option Int)
    (level : Option Text) : ofLine second raw number level = ofLine first raw number level := by
  rw [ofLine, ofLine, Content.ofLine_eq_of_not_tooDeep hfirst hsecond]

/-! ## Queries -/

/-- Two callers understand each pattern of a query alike: as the same search, or not at all. -/
def Query.ReadsAlike (first second : Stack) (query : Query) : Prop :=
  ∀ negated body flags, ⟨negated, .pattern body flags⟩ ∈ query.terms →
    (Search.ofPattern second body flags).toOption = (Search.ofPattern first body flags).toOption

/-- No pattern of a query is too deep for a caller. -/
def Query.Fits (stack : Stack) (query : Query) : Prop :=
  ∀ negated body flags, ⟨negated, .pattern body flags⟩ ∈ query.terms →
    Search.ofPattern stack body flags ≠ .error (.pattern .tooDeep)

theorem Query.Search.ofPattern_agrees (h : first.groups ≤ second.groups) (body flags : Text) :
    AgreesUnless (.pattern .tooDeep) (ofPattern first body flags)
      (ofPattern second body flags) := by
  unfold ofPattern
  split
  · exact agreesUnless_refl _
  · rcases Pattern.programOfText_agrees h (optionsOfFlags flags) body with hdeep | hsame
    · rw [hdeep]
      exact agreesUnless_fault _
    · rw [hsame]
      exact agreesUnless_refl _

/-- Patterns that are too deep for neither of two callers are understood alike. -/
theorem Query.readsAlike_of_fits {query : Query} (hfirst : query.Fits first)
    (hsecond : query.Fits second) : query.ReadsAlike first second := by
  intro negated body flags hterm
  rcases Nat.le_total first.groups second.groups with hle | hle
  · rw [(Search.ofPattern_agrees hle body flags).eq_of_ne (hfirst _ _ _ hterm)]
  · rw [(Search.ofPattern_agrees hle body flags).eq_of_ne (hsecond _ _ _ hterm)]

/-- A pattern that cannot be used is looked for as a text, whatever the fault. -/
theorem Query.patternMatches_eq_elim (stack : Stack) (body flags line : Text) :
    patternMatches stack body flags line =
      (Search.ofPattern stack body flags).toOption.elim (Text.holdsIgnoringCase line body)
        (Search.finds · line) := by
  unfold patternMatches
  cases Search.ofPattern stack body flags with
  | error fault => rfl
  | ok search => rfl

theorem Query.ReadsAlike.holds_eq {query : Query} (h : query.ReadsAlike first second)
    (record : Record) : query.holds second record = query.holds first record := by
  have hterm : ∀ term ∈ query.terms, term.holds second record = term.holds first record := by
    rintro ⟨negated, condition⟩ hterm
    cases condition with
    | pattern body flags =>
        rw [Term.holds, Term.holds, Condition.holds, Condition.holds, patternMatches_eq_elim,
          patternMatches_eq_elim, h negated body flags hterm]
    | field | range | level | text => rfl
  rw [Query.holds, Query.holds, Bool.eq_iff_iff, List.all_eq_true, List.all_eq_true]
  exact forall₂_congr fun term hmem => by rw [hterm term hmem]

/-! ## Reports -/

theorem Report.not_tooDeep {stack : Stack} {query : Text} {level : Option Text} {report : Report}
    (h : ofLine stack query raw level = .ok report) :
    Content.ofLine stack raw ≠ .error .tooDeep := by
  obtain ⟨record, hrecord, -⟩ := ofLine_eq_ok_iff.mp h
  obtain ⟨content, hcontent, -⟩ := exists_of_bind_eq_ok hrecord
  rw [hcontent]
  exact fun hdeep => nomatch hdeep

/-- Two callers who read a line and a query alike report the same. -/
theorem Report.ofLine_eq_of_readsAlike {query : Text} {level : Option Text} {report : Report}
    (h : ofLine first query raw level = .ok report)
    (hdeep : Content.ofLine second raw ≠ .error .tooDeep)
    (hquery : (Query.ofText query).ReadsAlike first second) :
    ofLine second query raw level = .ok report := by
  obtain ⟨record, hrecord, rfl⟩ := ofLine_eq_ok_iff.mp h
  rw [← Record.ofLine_eq_of_not_tooDeep (not_tooDeep h) hdeep] at hrecord
  rw [← hquery.holds_eq]
  exact ofLine_eq_ok_iff.mpr ⟨record, hrecord, rfl⟩

end LogSieve
