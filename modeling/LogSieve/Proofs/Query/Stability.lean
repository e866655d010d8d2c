import LogSieve.Proofs.Query.Seams

/-!
# Lexemes are lexemes of themselves

A lexeme that is read again, as a query of its own, is that query's only lexeme
(`lexemes_of_mem_lexemes`).  A piece begins where the automaton is at its start: at the
front of the query or behind a cut.  So the automaton goes over the piece alone as it went
over the piece in the query, and meets no cut there either, whatever it leaves open at the
end (`keeps_of_mem_pieces`).  What the strip took off the ends of the piece does not
matter, since it does not matter around a query (`lexemes_strip`).
-/

namespace LogSieve.Query

/-- No piece has a cut in it.  The first one goes on from the state that the automaton is in, all
others begin at its start. -/
theorem keeps_of_pieces_eq_cons {state : ScanState} {text first : Text} {others : List Text}
    (h : pieces state text = first :: others) :
    state.keeps first = true ∧ ∀ piece ∈ others, ScanState.start.keeps piece = true := by
  induction text generalizing state first others with
  | nil =>
      obtain ⟨rfl, rfl⟩ := List.cons.inj h
      exact ⟨rfl, List.forall_mem_nil _⟩
  | cons c rest ih =>
      cases hcut : state.cutsAt c with
      | true =>
          -- behind a cut the automaton is where it was, and this is its start
          obtain rfl : state = .start := by
            simp only [ScanState.cutsAt, Bool.and_eq_true, beq_iff_eq] at hcut
            exact hcut.1
          rw [pieces, if_pos hcut] at h
          obtain ⟨rfl, rfl⟩ := List.cons.inj h
          obtain ⟨next, later, hrest⟩ := List.exists_cons_of_ne_nil (pieces_ne_nil .start rest)
          obtain ⟨hnext, hlater⟩ := ih hrest
          rw [hrest]
          exact ⟨rfl, List.forall_mem_cons.mpr ⟨hnext, hlater⟩⟩
      | false =>
          obtain ⟨more, later, hrest⟩ :=
            List.exists_cons_of_ne_nil (pieces_ne_nil (state.next c) rest)
          obtain ⟨hmore, hlater⟩ := ih hrest
          rw [pieces, hcut, if_neg Bool.false_ne_true, hrest, List.modifyHead_cons] at h
          obtain ⟨rfl, rfl⟩ := List.cons.inj h
          exact ⟨by rw [ScanState.keeps, hcut, hmore]; rfl, hlater⟩

theorem keeps_of_mem_pieces {raw piece : Text} (h : piece ∈ pieces .start raw) :
    ScanState.start.keeps piece = true := by
  obtain ⟨first, others, hpieces⟩ := List.exists_cons_of_ne_nil (pieces_ne_nil .start raw)
  obtain ⟨hfirst, hothers⟩ := keeps_of_pieces_eq_cons hpieces
  rw [hpieces] at h
  rcases List.mem_cons.mp h with rfl | hmem
  · exact hfirst
  · exact hothers piece hmem

/-- Stripping takes off blank characters in front, which leave the automaton at its start, and an end
that is not looked at any more. -/
theorem keeps_strip {text : Text} (h : ScanState.start.keeps text = true) :
    ScanState.start.keeps text.strip = true := by
  obtain ⟨front, back, hfront, -, heq⟩ := Text.exists_append_strip_append text
  rw [heq, ScanState.keeps_append, ScanState.keeps_append, after_of_allBlank hfront] at h
  simp only [Bool.and_eq_true] at h
  exact h.1.2

/-- No lexeme has a cut in it. -/
theorem keeps_of_mem_lexemes {raw lexeme : Text} (h : lexeme ∈ lexemes raw) :
    ScanState.start.keeps lexeme = true := by
  obtain ⟨-, piece, hpiece, rfl⟩ := exists_piece_of_mem_lexemes h
  exact keeps_strip (keeps_of_mem_pieces hpiece)

/-- A lexeme is not empty, has no blank characters at its ends, and is the only lexeme of the query
that it makes on its own. -/
theorem lexemes_of_mem_lexemes {raw lexeme : Text} (h : lexeme ∈ lexemes raw) :
    lexeme ≠ [] ∧ lexeme.strip = lexeme ∧ lexemes lexeme = [lexeme] := by
  obtain ⟨hne, piece, hpiece, rfl⟩ := exists_piece_of_mem_lexemes h
  have halone : lexemes piece.strip = [piece.strip] := by
    rw [lexemes_strip, lexemes_of_keeps (keeps_of_mem_pieces hpiece), lexemesOf_singleton hne]
  exact ⟨hne, Text.strip_strip piece, halone⟩

/-- A pattern that is not closed, behind another lexeme; the blank that its backslash escapes is
stripped off. -/
theorem lexemes_of_mem_lexemes_openPattern :
    "-/a \"b\\".toList ∈ lexemes "x -/a \"b\\ ".toList ∧
      lexemes "-/a \"b\\".toList = ["-/a \"b\\".toList] := by
  have hmem : "-/a \"b\\".toList ∈ lexemes "x -/a \"b\\ ".toList := by
    rw [lexemes_eq]
    decide
  obtain ⟨-, -, hlexemes⟩ := lexemes_of_mem_lexemes hmem
  exact ⟨hmem, hlexemes⟩

end LogSieve.Query
