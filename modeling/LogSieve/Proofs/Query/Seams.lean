import LogSieve.Proofs.Query.Pieces
import LogSieve.Query.Reading

/-!
# Seams between the lexemes of a query

A text is closed if the automaton is back at its start behind it, and sealed if
moreover it is not cut anywhere.  A closed text and any other one with a separator
between them have the lexemes of the first and then those of the second
(`lexemes_append_cons`), so sealed texts joined by spaces are one lexeme each
(`terms_joinWith`).  Blank characters around a query do not matter, whatever the
automaton leaves open in front of them: behind a backslash or in quotation marks they
end the last piece, and are stripped off with its end (`lexemesFrom_append_blank`).  So
the strip that precedes the reading of a query is superfluous (`lexemes_strip`,
`terms_ofText`).
-/

namespace LogSieve.Query

/-- The automaton is back at its start behind the text. -/
def IsClosed (text : Text) : Prop := ScanState.start.after text = .start

/-- The text is closed and not cut. -/
structure IsSealed (text : Text) : Prop where
  keeps : ScanState.start.keeps text = true
  closed : IsClosed text

/-- A character that means nothing to the automaton in plain mode. -/
def isInert (c : Char) : Bool := c != '\\' && c != '"' && c != '/' && !isSeparator c

/-! ## Blank characters around a query -/

theorem next_of_isBlank {c : Char} (h : Text.isBlank c = true) (mode : Mode) :
    (⟨mode, false⟩ : ScanState).next c = ⟨mode, false⟩ := by
  have hbackslash : c ≠ '\\' := by
    rintro rfl
    exact absurd h (by decide)
  have hquote : c ≠ '"' := by
    rintro rfl
    exact absurd h (by decide)
  have hslash : c ≠ '/' := by
    rintro rfl
    exact absurd h (by decide)
  simp [ScanState.next, hbackslash, hquote, hslash]

theorem after_of_allBlank {blanks : Text} (h : Text.allBlank blanks = true) :
    ScanState.start.after blanks = .start := by
  rw [Text.allBlank_iff] at h
  induction blanks with
  | nil => rfl
  | cons c rest ih =>
      have hnext : ScanState.start.next c = .start := next_of_isBlank (h c (by simp)) .plain
      rw [ScanState.after_cons, hnext]
      exact ih fun d hd => h d (by simp [hd])

theorem lexemesFrom_append_blank {c : Char} (h : Text.isBlank c = true) (held : Text)
    (state : ScanState) (text : Text) :
    lexemesFrom held state (text ++ [c]) = lexemesFrom held state text := by
  have hblank : Text.allBlank [c] = true := by simpa [Text.allBlank] using h
  induction text generalizing held state with
  | nil =>
      cases hcut : state.cutsAt c with
      | true =>
          rw [List.nil_append, lexemesFrom_cons_of_cutsAt hcut, lexemesFrom_nil, lexemesFrom_nil]
          exact List.append_nil _
      | false =>
          rw [List.nil_append, lexemesFrom_cons hcut, lexemesFrom_nil, lexemesFrom_nil,
            List.reverse_cons, lexemesOf, lexemesOf, List.map_singleton, List.map_singleton,
            Text.strip_append_right _ hblank]
  | cons d rest ih =>
      rw [List.cons_append]
      cases hcut : state.cutsAt d with
      | true => rw [lexemesFrom_cons_of_cutsAt hcut, lexemesFrom_cons_of_cutsAt hcut, ih]
      | false => rw [lexemesFrom_cons hcut, lexemesFrom_cons hcut, ih]

theorem lexemesFrom_cons_blank {c : Char} (h : Text.isBlank c = true) (text : Text) :
    lexemesFrom [] .start (c :: text) = lexemesFrom [] .start text := by
  cases hcut : ScanState.start.cutsAt c with
  | true =>
      rw [lexemesFrom_cons_of_cutsAt hcut]
      rfl
  | false =>
      have hblank : Text.allBlank [c].reverse = true := by simpa [Text.allBlank] using h
      rw [lexemesFrom_cons hcut, show ScanState.start.next c = .start from next_of_isBlank h _,
        lexemesFrom_of_allBlank hblank]

theorem lexemes_eq_lexemesFrom (text : Text) : lexemes text = lexemesFrom [] .start text := by
  rw [lexemes_eq, lexemesFrom_nil_held]

theorem lexemes_append_right {blanks : Text} (h : Text.allBlank blanks = true) (text : Text) :
    lexemes (text ++ blanks) = lexemes text := by
  simp only [lexemes_eq_lexemesFrom]
  rw [Text.allBlank_iff] at h
  induction blanks using List.reverseRecOn with
  | nil => rw [List.append_nil]
  | append_singleton rest c ih =>
      rw [← List.append_assoc, lexemesFrom_append_blank (h c (by simp))]
      exact ih fun d hd => h d (by simp [hd])

theorem lexemes_append_left {blanks : Text} (h : Text.allBlank blanks = true) (text : Text) :
    lexemes (blanks ++ text) = lexemes text := by
  simp only [lexemes_eq_lexemesFrom]
  rw [Text.allBlank_iff] at h
  induction blanks with
  | nil => rfl
  | cons c rest ih =>
      rw [List.cons_append, lexemesFrom_cons_blank (h c (by simp))]
      exact ih fun d hd => h d (by simp [hd])

/-- Stripping a query first changes none of its lexemes. -/
theorem lexemes_strip (text : Text) : lexemes text.strip = lexemes text := by
  obtain ⟨front, back, hfront, hback, heq⟩ := Text.exists_append_strip_append text
  conv_rhs => rw [heq]
  rw [lexemes_append_right hback, lexemes_append_left hfront]

theorem terms_ofText (raw : Text) :
    (Query.ofText raw).terms = (lexemes raw).filterMap Term.ofLexeme? := by
  rw [Query.ofText, lexemes_strip]

theorem exists_ofLexeme? {lexeme : Text} (h : lexeme ≠ []) :
    ∃ term, Term.ofLexeme? lexeme = some term := by
  unfold Term.ofLexeme?
  split
  · contradiction
  · exact ⟨_, rfl⟩
  · exact ⟨_, rfl⟩

/-- No lexeme is empty, so each of them is read. -/
theorem map_some_terms_ofText (raw : Text) :
    (Query.ofText raw).terms.map some = (lexemes raw).map Term.ofLexeme? := by
  rw [terms_ofText, List.map_filterMap_some_eq_filter_map_isSome, List.filter_eq_self]
  intro found hfound
  obtain ⟨lexeme, hmem, rfl⟩ := List.mem_map.mp hfound
  obtain ⟨hne, -⟩ := exists_piece_of_mem_lexemes hmem
  obtain ⟨term, hterm⟩ := exists_ofLexeme? hne
  rw [hterm]
  rfl

/-- A query has the same lexemes stripped and as it stands, and its terms are the readings of these
lexemes, one for each and in their order. -/
theorem unstripped_lexemes_are_read (raw : Text) :
    lexemes raw.strip = lexemes raw ∧
      (Query.ofText raw).terms.map some = (lexemes raw).map Term.ofLexeme? :=
  ⟨lexemes_strip raw, map_some_terms_ofText raw⟩

/-! ## Closed texts -/

/-- Behind a closed text and a separator the scan starts afresh. -/
theorem lexemes_append_cons {first : Text} {c : Char} (hclosed : IsClosed first)
    (hc : isSeparator c = true) (second : Text) :
    lexemes (first ++ c :: second) = lexemes first ++ lexemes second := by
  have hcut : (ScanState.start.after first).cutsAt c = true := by
    rw [hclosed]
    simpa [ScanState.cutsAt] using hc
  rw [lexemes_eq, pieces_append_cons hcut, hclosed, lexemesOf_append, ← lexemes_eq, ← lexemes_eq]

/-! ## Sealed texts -/

theorem IsSealed.nil : IsSealed [] := ⟨rfl, rfl⟩

theorem IsSealed.append {first second : Text} (hfirst : IsSealed first)
    (hsecond : IsSealed second) : IsSealed (first ++ second) := by
  constructor
  · rw [ScanState.keeps_append, hfirst.keeps, hfirst.closed, hsecond.keeps, Bool.and_self]
  · rw [IsClosed, ScanState.after_append, hfirst.closed, hsecond.closed]

/-- A text that means nothing to the automaton is sealed. -/
theorem IsSealed.of_inert {text : Text} (h : ∀ c ∈ text, isInert c = true) : IsSealed text := by
  induction text with
  | nil => exact .nil
  | cons c rest ih =>
      have hc : isInert c = true := h c (by simp)
      simp only [isInert, Bool.and_eq_true, bne_iff_ne, Bool.not_eq_true'] at hc
      obtain ⟨⟨⟨hbackslash, hquote⟩, hslash⟩, hseparator⟩ := hc
      have hnext : ScanState.start.next c = .start := by
        simp [ScanState.next, ScanState.start, hbackslash, hquote, hslash]
      obtain ⟨hkeeps, hclosed⟩ := ih fun d hd => h d (by simp [hd])
      constructor
      · simp [ScanState.keeps, cutsAt_eq_false hseparator, hnext, hkeeps]
      · rw [IsClosed, ScanState.after_cons, hnext, hclosed]

theorem IsSealed.of_all {text : Text} (h : text.all isInert = true) : IsSealed text :=
  .of_inert (List.all_eq_true.mp h)

/-- Away from plain mode, what neither is a quotation mark nor a backslash nor a slash leaves the
state alone, and nothing is cut. -/
theorem kept_in_quotes {text : Text} (hquote : '"' ∉ text) (hbackslash : '\\' ∉ text) :
    (⟨.quoted, false⟩ : ScanState).keeps text = true ∧
      (⟨.quoted, false⟩ : ScanState).after text = ⟨.quoted, false⟩ := by
  induction text with
  | nil => exact ⟨rfl, rfl⟩
  | cons c rest ih =>
      simp only [List.mem_cons, not_or] at hquote hbackslash
      have hnext : (⟨.quoted, false⟩ : ScanState).next c = ⟨.quoted, false⟩ :=
        next_of_ordinary (Ne.symm hbackslash.1) (Ne.symm hquote.1) (by simp) (by simp)
      have hcut : (⟨.quoted, false⟩ : ScanState).cutsAt c = false := by
        simpa using (cutsAt_mk .quoted false c).not
      obtain ⟨hkeeps, hafter⟩ := ih hquote.2 hbackslash.2
      simp [ScanState.keeps, hcut, hnext, hkeeps, hafter]

/-- A text between quotation marks is sealed. -/
theorem IsSealed.quoted {text : Text} (hquote : '"' ∉ text) (hbackslash : '\\' ∉ text) :
    IsSealed ('"' :: text ++ ['"']) := by
  obtain ⟨hkeeps, hafter⟩ := kept_in_quotes hquote hbackslash
  have hopen : ScanState.start.next '"' = ⟨.quoted, false⟩ := rfl
  constructor
  · rw [List.cons_append, ScanState.keeps, hopen, ScanState.keeps_append, hkeeps, hafter]
    rfl
  · rw [IsClosed, List.cons_append, ScanState.after_cons, hopen, ScanState.after_append, hafter]
    rfl

/-- A text that is not cut is one piece, whatever it leaves open at its end. -/
theorem lexemes_of_keeps {text : Text} (h : ScanState.start.keeps text = true) :
    lexemes text = lexemesOf [text] := by
  have happend := pieces_append h []
  rw [List.append_nil] at happend
  rw [lexemes_eq, happend]
  simp [pieces]

/-- Such a text is read as it is when it is stripped, and a blank one is no term. -/
theorem terms_of_keeps {text : Text} (h : ScanState.start.keeps text = true) :
    (Query.ofText text).terms = (Term.ofLexeme? text.strip).toList := by
  rw [terms_ofText, lexemes_of_keeps h]
  by_cases hblank : text.strip = []
  · rw [lexemesOf_singleton_of_strip_eq_nil hblank, hblank]
    rfl
  · obtain ⟨term, hterm⟩ := exists_ofLexeme? hblank
    rw [lexemesOf_singleton hblank, List.filterMap_cons, hterm]
    rfl

/-- Sealed texts joined by spaces are read one by one. -/
theorem terms_joinWith {texts : List Text} (h : ∀ text ∈ texts, IsSealed text) :
    (Query.ofText (Text.joinWith [' '] texts)).terms =
      texts.filterMap fun text => Term.ofLexeme? text.strip := by
  have hlexemes : lexemes (Text.joinWith [' '] texts) = lexemesOf texts := by
    induction texts with
    | nil =>
        rw [lexemes_eq]
        rfl
    | cons text others ih =>
        have htext : IsSealed text := h text (by simp)
        have hothers := ih fun other hother => h other (by simp [hother])
        cases others with
        | nil => exact lexemes_of_keeps htext.keeps
        | cons other rest =>
            rw [Text.joinWith_cons _ _ (by simp), List.append_assoc, List.singleton_append,
              lexemes_append_cons htext.closed (by decide), hothers, lexemes_of_keeps htext.keeps,
              ← lexemesOf_append, List.singleton_append]
  rw [terms_ofText, hlexemes, lexemesOf, List.filterMap_filter, List.filterMap_map]
  apply List.filterMap_congr
  intro text _
  cases hstrip : text.strip with
  | nil => simp [hstrip, Term.ofLexeme?]
  | cons c rest => simp [hstrip]

end LogSieve.Query
