import LogSieve.Proofs.Query.Seams
import LogSieve.Query.Matching

/-!
# Queries side by side

Two queries with a space between them should ask for what both of them ask for.
They do if the first one is closed: its terms come first, then those of the second,
so the records that satisfy the joint query are selected by one after the other.

Behind any other text the space is no seam, and the law fails.  It fails for a plain
word already: whatever moved the automaton away from its start is not blank and
still waits in the last lexeme, so the word joins this lexeme and makes none of its
own (`length_lexemesFrom_append_word`).  Hence closed texts are exactly those that
can stand in front of every query (`isClosed_iff_conjunction`).
-/

namespace LogSieve.Query

variable {stack : Stack}

instance (text : Text) : Decidable (IsClosed text) :=
  inferInstanceAs (Decidable (ScanState.start.after text = .start))

/-! ## Closed texts in front -/

theorem terms_append {first : Text} (h : IsClosed first) (second : Text) :
    (Query.ofText (first ++ ' ' :: second)).terms =
      (Query.ofText first).terms ++ (Query.ofText second).terms := by
  simp only [terms_ofText]
  rw [lexemes_append_cons h (by decide), List.filterMap_append]

/-- What a query selects depends on its terms alone, and more terms select from what the others
have selected. -/
theorem select_of_terms_append {first second both : Query}
    (h : both.terms = first.terms ++ second.terms) (records : List Record) :
    both.select stack records = second.select stack (first.select stack records) := by
  have hholds : ∀ record, both.holds stack record =
      (second.holds stack record && first.holds stack record) := by
    intro record
    rw [Query.holds, h, List.all_append, Bool.and_comm]
    rfl
  calc both.select stack records
      = records.filter fun record => second.holds stack record && first.holds stack record :=
        List.filter_congr fun record _ => hholds record
    _ = second.select stack (first.select stack records) := List.filter_filter.symm

/-! ## Other texts in front -/

/-- What moves the automaton away from its start is not blank. -/
theorem isBlank_of_next_ne_start {c : Char} (h : ScanState.start.next c ≠ .start) :
    Text.isBlank c = false := by
  rw [Bool.eq_false_iff]
  intro hblank
  exact h (next_of_isBlank hblank .plain)

theorem allBlank_cons_reverse {held : Text} (c : Char) :
    Text.allBlank (c :: held).reverse = (Text.isBlank c && Text.allBlank held.reverse) := by
  simp [Text.allBlank, Bool.and_comm]

theorem length_lexemesOf_singleton {piece : Text} (h : Text.allBlank piece = false) :
    (lexemesOf [piece]).length = 1 := by
  have hstrip : Text.strip piece ≠ [] := by
    intro hnil
    rw [Text.strip_eq_nil_iff.mp hnil] at h
    cases h
  rw [lexemesOf_singleton hstrip, List.length_singleton]

/-- Behind a text that leaves the automaton away from its start, a word makes no lexeme of its own.
What the induction carries along is that away from the start something is held. -/
theorem length_lexemesFrom_append_word {text held : Text} {state : ScanState}
    (hheld : state ≠ .start → Text.allBlank held.reverse = false)
    (hopen : state.after text ≠ .start) :
    (lexemesFrom held state (text ++ [' ', 'x'])).length =
      (lexemesFrom held state text).length := by
  induction text generalizing held state with
  | nil =>
      have hcut : state.cutsAt ' ' = false := by
        simpa [ScanState.cutsAt] using fun hstart => absurd hstart hopen
      have hword : Text.allBlank ('x' :: ' ' :: held).reverse = false := by
        rw [allBlank_cons_reverse]
        rfl
      rw [List.nil_append, lexemesFrom_cons hcut, lexemesFrom_cons (cutsAt_eq_false rfl),
        lexemesFrom_nil, lexemesFrom_nil, length_lexemesOf_singleton hword,
        length_lexemesOf_singleton (hheld hopen)]
  | cons c rest ih =>
      rw [ScanState.after_cons] at hopen
      rw [List.cons_append]
      cases hcut : state.cutsAt c with
      | true =>
          -- behind a cut nothing is held, but the automaton is at its start
          have hstart : state = .start := by
            simp only [ScanState.cutsAt, Bool.and_eq_true, beq_iff_eq] at hcut
            exact hcut.1
          rw [ScanState.next_of_cutsAt hcut] at hopen
          rw [lexemesFrom_cons_of_cutsAt hcut, lexemesFrom_cons_of_cutsAt hcut,
            List.length_append, List.length_append, ih (fun hne => absurd hstart hne) hopen]
      | false =>
          rw [lexemesFrom_cons hcut, lexemesFrom_cons hcut]
          refine ih (fun hnext => ?_) hopen
          rw [allBlank_cons_reverse]
          by_cases hstart : state = .start
          · rw [isBlank_of_next_ne_start (hstart ▸ hnext), Bool.false_and]
          · rw [hheld hstart, Bool.and_false]

theorem length_terms_ofText (raw : Text) :
    (Query.ofText raw).terms.length = (lexemes raw).length := by
  rw [terms_ofText, List.filterMap_length_eq_length]
  intro lexeme hlexeme
  obtain ⟨hne, -⟩ := exists_piece_of_mem_lexemes hlexeme
  unfold Term.ofLexeme?
  split
  · exact absurd rfl hne
  · rfl
  · rfl

/-- Queries side by side ask for what both of them ask for, whatever the second one is, exactly if
the first one is closed. -/
theorem isClosed_iff_conjunction (first : Text) :
    IsClosed first ↔ ∀ second,
      (Query.ofText (first ++ ' ' :: second)).terms =
          (Query.ofText first).terms ++ (Query.ofText second).terms ∧
        ∀ records, (Query.ofText (first ++ ' ' :: second)).select stack records =
          (Query.ofText second).select stack ((Query.ofText first).select stack records) := by
  constructor
  · intro hclosed second
    have hterms := terms_append hclosed second
    exact ⟨hterms, select_of_terms_append hterms⟩
  · intro hall
    by_contra hopen
    have hlength : (lexemes (first ++ [' ', 'x'])).length = (lexemes first).length := by
      rw [lexemes_eq_lexemesFrom, lexemes_eq_lexemesFrom]
      exact length_lexemesFrom_append_word (fun hne => absurd rfl hne) hopen
    have hterms := congrArg List.length (hall ['x']).1
    have hword : (lexemes ['x']).length = 1 := by
      rw [lexemes_eq]
      decide
    rw [List.length_append, length_terms_ofText, length_terms_ofText, length_terms_ofText, hlength,
      hword] at hterms
    omega

/-- Marks and slashes close what they open, a backslash in front of a mark prevents it, and no lexeme
needs to end where the text does. -/
example :
    IsClosed "\"a \\\" b\" /c d/i x".toList ∧ ¬ IsClosed "\"a \\\"".toList ∧
      ¬ IsClosed "a\\".toList := by
  decide

end LogSieve.Query
