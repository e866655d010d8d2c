import LogSieve.Proofs.Query.Forms
import LogSieve.Query.Matching

/-!
# A dash asks for the opposite

A dash in front of a lexeme negates its term and changes nothing else, so a record
satisfies exactly one of the two queries (`holds_dash`).  That the dash is read as
part of the lexeme has to be shown: a text that is its own only lexeme is a single
piece, since every further piece and every stripped blank would make the lexeme
shorter than the text (`pieces_eq_singleton`).
-/

namespace LogSieve.Query

variable {stack : Stack}

/-! ## A text that is one lexeme -/

/-- Of a text only the separators at the cuts are not in its pieces. -/
theorem length_flatten_pieces (state : ScanState) (text : Text) :
    (pieces state text).flatten.length + (pieces state text).length = text.length + 1 := by
  induction text generalizing state with
  | nil => rfl
  | cons c rest ih =>
      unfold pieces
      split
      · have hrest := ih state
        simp only [List.flatten_cons, List.nil_append, List.length_cons]
        omega
      · have hrest := ih (state.next c)
        obtain ⟨piece, others, hpieces⟩ :=
          List.exists_cons_of_ne_nil (pieces_ne_nil (state.next c) rest)
        rw [hpieces] at hrest ⊢
        simp only [List.modifyHead_cons, List.flatten_cons, List.length_append,
          List.length_cons] at hrest ⊢
        omega

/-- A text that is its own only lexeme is not cut. -/
theorem pieces_eq_singleton {text : Text} (h : lexemes text = [text]) :
    pieces .start text = [text] := by
  rw [lexemes_eq] at h
  have hmem : text ∈ lexemesOf (pieces .start text) := by
    rw [h]
    exact List.mem_singleton_self text
  rw [lexemesOf, List.mem_filter, List.mem_map] at hmem
  obtain ⟨⟨piece, hpiece, hstrip⟩, -⟩ := hmem
  obtain ⟨before, behind, hsplit⟩ := List.append_of_mem hpiece
  obtain ⟨front, back, -, -, hblanks⟩ := Text.exists_append_strip_append piece
  rw [hstrip] at hblanks
  have hlength := length_flatten_pieces .start text
  rw [hsplit, hblanks] at hlength
  simp only [List.flatten_append, List.flatten_cons, List.length_append,
    List.length_cons] at hlength
  -- what is around the text has no length
  have hbefore : before = [] := List.length_eq_zero_iff.mp (by omega)
  have hbehind : behind = [] := List.length_eq_zero_iff.mp (by omega)
  have hfront : front = [] := List.length_eq_zero_iff.mp (by omega)
  have hback : back = [] := List.length_eq_zero_iff.mp (by omega)
  rw [hsplit, hblanks, hbefore, hbehind, hfront, hback, List.nil_append, List.nil_append,
    List.append_nil]

/-! ## The dash -/

theorem lexemes_dash {text : Text} (h : lexemes text = [text]) :
    lexemes ('-' :: text) = ['-' :: text] := by
  have hpieces := pieces_eq_singleton h
  rw [lexemes_eq, hpieces] at h
  have hstrip : Text.strip text = text := by
    by_cases hnil : Text.strip text = []
    · rw [lexemesOf_singleton_of_strip_eq_nil hnil] at h
      cases h
    · rw [lexemesOf_singleton hnil] at h
      exact (List.cons.inj h).1
  have hdash : Text.strip ('-' :: text) = '-' :: text := by
    refine Text.strip_cons_eq_self (by decide) ?_
    rw [← hstrip]
    exact fun c hc => Text.getLast?_strip hc
  have hcut : ScanState.start.cutsAt '-' = false := cutsAt_eq_false rfl
  have hnext : ScanState.start.next '-' = .start := rfl
  have hpiece : pieces .start ('-' :: text) = ['-' :: text] := by
    simp [pieces, hcut, hnext, hpieces]
  have hne : Text.strip ('-' :: text) ≠ [] := by
    rw [hdash]
    exact List.cons_ne_nil _ _
  rw [lexemes_eq, hpiece, lexemesOf_singleton hne, hdash]

theorem holds_of_terms_eq_singleton {query : Query} {term : Term} (h : query.terms = [term])
    (record : Record) : query.holds stack record = term.holds stack record := by
  rw [Query.holds, h, List.all_cons, List.all_nil, Bool.and_true]

/-- A dash in front of a text that is one lexeme and has none yet negates its term, and the query
then asks for the opposite. -/
theorem holds_dash {text : Text} (hlexeme : lexemes text = [text])
    (hdash : text.head? ≠ some '-') :
    ∃ term, Term.ofLexeme? text = some term ∧
      (Query.ofText ('-' :: text)).terms = [{ term with negated := true }] ∧
      ∀ record, (Query.ofText ('-' :: text)).holds stack record =
        !(Query.ofText text).holds stack record := by
  have hne : text ≠ [] := by
    rintro rfl
    exact absurd hlexeme (by rw [lexemes_eq]; decide)
  have hterm := ofLexeme?_of_head_ne hne hdash
  have hplain : (Query.ofText text).terms = [⟨false, Condition.ofBody text⟩] := by
    rw [terms_ofText, hlexeme, List.filterMap_cons, hterm, List.filterMap_nil]
  have hnegated : (Query.ofText ('-' :: text)).terms = [⟨true, Condition.ofBody text⟩] := by
    rw [terms_ofText, lexemes_dash hlexeme, List.filterMap_cons, ofLexeme?_dash,
      List.filterMap_nil]
  refine ⟨_, hterm, hnegated, fun record => ?_⟩
  rw [holds_of_terms_eq_singleton hplain, holds_of_terms_eq_singleton hnegated]
  exact Term.holds_flipped stack record ⟨false, Condition.ofBody text⟩

/-- A pattern that is not closed is looked for as a text, blank and slash included; behind a dash it
must not be found. -/
theorem holds_dash_of_openPattern :
    (Query.ofText "-/a b".toList).terms = [⟨true, .text "/a b".toList⟩] ∧
      ∀ record, (Query.ofText "-/a b".toList).holds .direct record =
        !(Query.ofText "/a b".toList).holds .direct record := by
  have hlexeme : lexemes "/a b".toList = ["/a b".toList] := by
    rw [lexemes_eq]
    decide
  obtain ⟨term, hterm, hterms, hholds⟩ := holds_dash hlexeme (by decide)
  obtain rfl : (⟨false, .text "/a b".toList⟩ : Term) = term := by
    have hread : Term.ofLexeme? "/a b".toList = some ⟨false, .text "/a b".toList⟩ := by decide
    exact Option.some.inj (hread.symm.trans hterm)
  exact ⟨hterms, hholds⟩

end LogSieve.Query
