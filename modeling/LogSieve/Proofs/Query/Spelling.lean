import LogSieve.Proofs.Query.Grammar

/-!
# What is left of a lexeme

A term keeps the text of its lexeme: put together again, with or without quotation marks,
its parts are the lexeme.  Blank characters at the end are none of a lexeme's, so the line
feed that the reading of a key leaves away is never there (`IsKeyed.eq_append`).

A single quotation mark is the exception.  Behind a key it counts as both marks of a
quotation, with nothing inside, and the one character that there was is lost.  This is the
only way to lose one (`exists_term_keepsText_iff`).
-/

namespace LogSieve.Query

/-- The parts of a condition, put together, are the text; a level keeps no part of it. -/
def Condition.KeepsText (text : Text) : Condition → Prop
  | .field key value =>
    text = key ++ ':' :: value ∨ text = key ++ ':' :: ('"' :: value ++ ['"'])
  | .range key first last => text = key ++ ':' :: (first ++ '.' :: '.' :: last)
  | .level _ => True
  | .pattern body flags => text = '/' :: body ++ '/' :: flags
  | .text value => text = value ∨ text = '"' :: value ++ ['"']

/-- A key with a single quotation mark behind its colon. -/
structure IsHalfQuoted (text key : Text) : Prop where
  isKey : IsKey key
  joins : text = key ++ ':' :: ['"']

/-! ## Lexemes are stripped -/

theorem getLast?_withoutDash_ne {lexeme : Text} (h : lexeme.getLast? ≠ some '\n') :
    (withoutDash lexeme).getLast? ≠ some '\n' := by
  unfold withoutDash
  split
  · exact Text.getLast?_ne_of_cons h
  · exact h

/-- Neither a lexeme nor what is behind its dash ends in a line feed. -/
theorem getLast?_ne_of_mem_lexemes {raw lexeme : Text} (h : lexeme ∈ lexemes raw) :
    (withoutDash lexeme).getLast? ≠ some '\n' := by
  obtain ⟨-, piece, -, rfl⟩ := exists_piece_of_mem_lexemes h
  apply getLast?_withoutDash_ne
  intro hlast
  exact absurd (Text.getLast?_strip hlast) (by decide)

theorem IsKeyed.eq_append {text key value : Text} (h : IsKeyed text key value)
    (hend : text.getLast? ≠ some '\n') : text = key ++ ':' :: value := by
  rcases h.joins with hjoins | hjoins
  · exact hjoins
  · apply absurd _ hend
    rw [hjoins, ← List.cons_append, ← List.append_assoc]
    exact List.getLast?_concat

/-! ## Kept and lost -/

/-- Nothing is lost but a single quotation mark. -/
theorem Reads.keepsText {body : Text} {condition : Condition} (h : Reads body condition)
    (hend : body.getLast? ≠ some '\n') (hmark : ∀ key, ¬ IsHalfQuoted body key) :
    condition.KeepsText body := by
  cases h with
  | pattern h => exact h.joins
  | levels => trivial
  | range hkeyed hspan =>
      rw [Condition.KeepsText, ← hspan.joins]
      exact hkeyed.eq_append hend
  | level => trivial
  | @field key value content hkeyed _ hcontent =>
      have hbody : body = key ++ ':' :: value := hkeyed.eq_append hend
      cases hcontent with
      | marks content => exact .inr hbody
      | mark => exact absurd ⟨hkeyed.isKey, hbody⟩ (hmark key)
      | bare => exact .inl hbody
  | quotation _ _ hmarks => exact .inr hmarks
  | text => exact .inl rfl

theorem IsHalfQuoted.ofBody_eq {body key : Text} (h : IsHalfQuoted body key) :
    Condition.ofBody body = .field key [] := by
  obtain ⟨hkey, rfl⟩ := h
  have hname : Severity.ofName? [] = none := by decide
  rw [ofBody_value hkey (by simp) (by decide) (by decide),
    show unquote ['"'] = [] from rfl, fieldCondition_eq_field_iff]
  exact ⟨rfl, by simp [hname]⟩

theorem IsHalfQuoted.not_keepsText {body key : Text} (h : IsHalfQuoted body key) :
    ¬ (Condition.field key []).KeepsText body := by
  obtain ⟨-, rfl⟩ := h
  simp [Condition.KeepsText]

/-- The term of a lexeme keeps its text exactly if the lexeme, without its dash, is not a key with a
single quotation mark behind the colon. -/
theorem exists_term_keepsText_iff {raw lexeme : Text} (h : lexeme ∈ lexemes raw) :
    ∃ term, Term.ofLexeme? lexeme = some term ∧
      (term.condition.KeepsText (withoutDash lexeme) ↔
        ∀ key, ¬ IsHalfQuoted (withoutDash lexeme) key) := by
  obtain ⟨hne, -⟩ := exists_piece_of_mem_lexemes h
  refine ⟨_, ofLexeme?_eq hne, ?_⟩
  constructor
  · intro hkeeps key hmark
    rw [hmark.ofBody_eq] at hkeeps
    exact hmark.not_keepsText hkeeps
  · exact (ofBody_eq_iff.mp rfl).keepsText (getLast?_ne_of_mem_lexemes h)

/-- A quotation that was opened and not closed yet: the mark is not in the field. -/
theorem not_keepsText_openQuotation :
    ['k', ':', '"'] ∈ lexemes ['k', ':', '"'] ∧
      Term.ofLexeme? ['k', ':', '"'] = some ⟨false, .field ['k'] []⟩ ∧
      ¬ (Condition.field ['k'] []).KeepsText ['k', ':', '"'] := by
  have hmem : ['k', ':', '"'] ∈ lexemes ['k', ':', '"'] := by
    rw [lexemes_eq]
    decide
  have hread : Term.ofLexeme? ['k', ':', '"'] = some ⟨false, .field ['k'] []⟩ := by decide
  have hmark : IsHalfQuoted ['k', ':', '"'] ['k'] := ⟨isKey_iff.mpr (by decide), rfl⟩
  obtain ⟨term, hterm, hkeeps⟩ := exists_term_keepsText_iff hmem
  obtain rfl := Option.some.inj (hread.symm.trans hterm)
  exact ⟨hmem, hread, fun h => hkeeps.mp h ['k'] hmark⟩

end LogSieve.Query
