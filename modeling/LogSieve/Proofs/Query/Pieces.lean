import LogSieve.Proofs.Text.Strip
import LogSieve.Query.Lexeme
import Mathlib.Data.List.Basic

/-!
# Pieces of a query

The scan of a query collects lexemes while it runs: it takes the flags of a
pattern ahead, ends a lexeme early behind them, and holds on to a blank text that
made no lexeme.  None of this can be seen in the result.  `lexemes_eq` says that
the lexemes are those of the plainest scan there is: run a four mode automaton over
the characters one by one, cut at every separator that it meets in plain mode,
strip the pieces and drop the empty ones.

The plain scan is a fold, so what follows from `lexemes_eq` needs no more than the
state of the automaton at a seam: `pieces_append` for a text that is not cut, and
`pieces_append_cons` for a seam at a separator.
-/

namespace LogSieve.Query

/-- The mode after a slash that is not escaped. -/
def Mode.afterSlash : Mode → Mode
  | plain => pattern
  | pattern => plain
  | quoted => quoted
  | quotedInPattern => quotedInPattern

/-- Where the automaton stands between two characters. -/
structure ScanState where
  mode : Mode
  /-- Whether a backslash escapes the next character. -/
  escaped : Bool
  deriving DecidableEq

namespace ScanState

/-- The state at the start of a query. -/
def start : ScanState := ⟨.plain, false⟩

/-- The state after one more character. -/
def next (state : ScanState) (c : Char) : ScanState :=
  if state.escaped then ⟨state.mode, false⟩
  else if c = '\\' then ⟨state.mode, true⟩
  else if c = '"' then ⟨state.mode.afterQuote, false⟩
  else if c = '/' then ⟨state.mode.afterSlash, false⟩
  else state

/-- The state after a text. -/
def after (state : ScanState) (text : Text) : ScanState := text.foldl next state

/-- Whether the query is cut at a character. -/
def cutsAt (state : ScanState) (c : Char) : Bool := state == start && isSeparator c

/-- Whether a text has no place where it is cut. -/
def keeps (state : ScanState) : Text → Bool
  | [] => true
  | c :: rest => !state.cutsAt c && (state.next c).keeps rest

end ScanState

/-- The pieces that a text is cut into; there is always one, and the separators between them are
lost. -/
def pieces (state : ScanState) : Text → List Text
  | [] => [[]]
  | c :: rest =>
    if state.cutsAt c then [] :: pieces state rest
    else (pieces (state.next c) rest).modifyHead (c :: ·)

/-- The lexemes that pieces make. -/
def lexemesOf (pieces : List Text) : List Text :=
  (pieces.map Text.strip).filter fun lexeme => !lexeme.isEmpty

/-! ## The automaton -/

namespace ScanState

@[simp] theorem after_nil (state : ScanState) : state.after [] = state := rfl

@[simp] theorem after_cons (state : ScanState) (c : Char) (rest : Text) :
    state.after (c :: rest) = (state.next c).after rest := rfl

theorem after_append (state : ScanState) (first second : Text) :
    state.after (first ++ second) = (state.after first).after second := by
  simp [after]

theorem keeps_append (state : ScanState) (first second : Text) :
    state.keeps (first ++ second) = (state.keeps first && (state.after first).keeps second) := by
  induction first generalizing state with
  | nil => simp [keeps]
  | cons c rest ih => simp [keeps, ih, Bool.and_assoc]

/-- A separator is an ordinary character for the automaton itself. -/
theorem next_of_cutsAt {state : ScanState} {c : Char} (h : state.cutsAt c = true) :
    state.next c = state := by
  simp only [cutsAt, isSeparator, Bool.and_eq_true, beq_iff_eq, Bool.or_eq_true] at h
  obtain ⟨rfl, rfl | rfl⟩ := h <;> rfl

end ScanState

/-! ## Cutting -/

theorem pieces_ne_nil (state : ScanState) (text : Text) : pieces state text ≠ [] := by
  induction text generalizing state with
  | nil => simp [pieces]
  | cons c rest ih =>
      unfold pieces
      split
      · simp
      · simpa using ih _

/-- A text without a cut joins the first piece of what follows. -/
theorem pieces_append {state : ScanState} {first : Text} (h : state.keeps first = true)
    (second : Text) :
    pieces state (first ++ second) =
      (pieces (state.after first) second).modifyHead (first ++ ·) := by
  induction first generalizing state with
  | nil =>
      obtain ⟨piece, others, hpieces⟩ := List.exists_cons_of_ne_nil (pieces_ne_nil state second)
      simp [hpieces]
  | cons c rest ih =>
      simp only [ScanState.keeps, Bool.and_eq_true, Bool.not_eq_true'] at h
      simp [pieces, h.1, ih h.2, Function.comp_def]

/-- A seam at a separator parts the pieces. -/
theorem pieces_append_cons {state : ScanState} {first : Text} {c : Char}
    (h : (state.after first).cutsAt c = true) (second : Text) :
    pieces state (first ++ c :: second) =
      pieces state first ++ pieces (state.after first) second := by
  induction first generalizing state with
  | nil =>
      rw [ScanState.after_nil] at h
      simp [pieces, h]
  | cons d rest ih =>
      simp only [ScanState.after_cons] at h
      simp only [List.cons_append, pieces, ScanState.after_cons]
      split
      · rename_i hcut
        rw [ScanState.next_of_cutsAt hcut] at h ⊢
        simp [ih h]
      · obtain ⟨piece, others, hpieces⟩ :=
          List.exists_cons_of_ne_nil (pieces_ne_nil (state.next d) rest)
        simp [ih h, hpieces]

/-! ## Pieces and lexemes -/

theorem lexemesOf_append (first second : List Text) :
    lexemesOf (first ++ second) = lexemesOf first ++ lexemesOf second := by
  simp [lexemesOf]

/-! ## The scan with what it holds -/

/-- The lexemes of the rest of a query when `held` is what the current piece has so far, last
character first. -/
def lexemesFrom (held : Text) (state : ScanState) (text : Text) : List Text :=
  lexemesOf ((pieces state text).modifyHead (held.reverse ++ ·))

theorem lexemesFrom_nil_held (state : ScanState) (text : Text) :
    lexemesFrom [] state text = lexemesOf (pieces state text) := by
  obtain ⟨piece, others, hpieces⟩ := List.exists_cons_of_ne_nil (pieces_ne_nil state text)
  simp [lexemesFrom, hpieces]

theorem lexemesFrom_nil (held : Text) (state : ScanState) :
    lexemesFrom held state [] = lexemesOf [held.reverse] := by
  simp [lexemesFrom, pieces]

theorem lexemesFrom_cons {state : ScanState} {c : Char} (h : state.cutsAt c = false)
    (held rest : Text) :
    lexemesFrom held state (c :: rest) = lexemesFrom (c :: held) (state.next c) rest := by
  simp [lexemesFrom, pieces, h, Function.comp_def]

/-- At a cut the piece so far is complete. -/
theorem lexemesFrom_cons_of_cutsAt {state : ScanState} {c : Char} (h : state.cutsAt c = true)
    (held rest : Text) :
    lexemesFrom held state (c :: rest) = lexemesOf [held.reverse] ++ lexemesFrom [] state rest := by
  rw [lexemesFrom_nil_held, ← lexemesOf_append]
  simp [lexemesFrom, pieces, h]

theorem lexemesFrom_append {state : ScanState} {first : Text} (h : state.keeps first = true)
    (held rest : Text) :
    lexemesFrom held state (first ++ rest) =
      lexemesFrom (first.reverse ++ held) (state.after first) rest := by
  simp [lexemesFrom, pieces_append h, Function.comp_def]

/-- A blank text that is held on to does not show in the lexemes. -/
theorem lexemesFrom_of_allBlank {held : Text} (h : Text.allBlank held.reverse = true)
    (state : ScanState) (text : Text) :
    lexemesFrom held state text = lexemesFrom [] state text := by
  obtain ⟨piece, others, hpieces⟩ := List.exists_cons_of_ne_nil (pieces_ne_nil state text)
  simp [lexemesFrom, hpieces, lexemesOf, Text.strip_append_left piece h]

theorem lexemesOf_singleton_of_strip_eq_nil {piece : Text} (h : Text.strip piece = []) :
    lexemesOf [piece] = [] := by
  simp [lexemesOf, h]

theorem lexemesOf_singleton {piece : Text} (h : Text.strip piece ≠ []) :
    lexemesOf [piece] = [Text.strip piece] := by
  simp [lexemesOf, h]

/-! ## Flags are ordinary characters -/

theorem cutsAt_eq_false {state : ScanState} {c : Char} (h : isSeparator c = false) :
    state.cutsAt c = false := by
  simp [ScanState.cutsAt, h]

theorem next_start_of_isPatternFlag {c : Char} (h : isPatternFlag c = true) :
    ScanState.start.next c = ScanState.start ∧ isSeparator c = false := by
  simp only [isPatternFlag, List.contains_cons, List.contains_nil, Bool.or_false,
    Bool.or_eq_true, beq_iff_eq] at h
  rcases h with rfl | rfl | rfl | rfl | rfl | rfl <;> decide

/-- Flags neither cut a text nor move the automaton. -/
theorem flags_kept {flags : Text} (h : ∀ c ∈ flags, isPatternFlag c = true) :
    ScanState.start.keeps flags = true ∧ ScanState.start.after flags = ScanState.start := by
  induction flags with
  | nil => exact ⟨rfl, rfl⟩
  | cons c rest ih =>
      obtain ⟨hnext, hseparator⟩ := next_start_of_isPatternFlag (h c (by simp))
      obtain ⟨hkeeps, hafter⟩ := ih fun d hd => h d (by simp [hd])
      simp [ScanState.keeps, cutsAt_eq_false hseparator, hnext, hkeeps, hafter]

/-- The flags behind a closing slash only extend the piece. -/
theorem lexemesFrom_flags (held rest : Text) :
    lexemesFrom held .start rest =
      lexemesFrom ((rest.takeWhile isPatternFlag).reverse ++ held) .start
        (rest.dropWhile isPatternFlag) := by
  obtain ⟨hkeeps, hafter⟩ :=
    flags_kept fun c (hc : c ∈ rest.takeWhile isPatternFlag) => List.mem_takeWhile_imp hc
  conv_lhs => rw [← List.takeWhile_append_dropWhile (p := isPatternFlag) (l := rest)]
  rw [lexemesFrom_append hkeeps, hafter]

/-- Where a lexeme ends early, the scan that goes on from there loses nothing. -/
theorem lexemesFrom_of_endsLexeme {text : Text} (h : endsLexeme text = true) (held : Text) :
    lexemesFrom held .start text = lexemesOf [held.reverse] ++ lexemesFrom [] .start text := by
  cases text with
  | nil =>
      have hnone : lexemesOf [([] : Text)] = [] := rfl
      rw [lexemesFrom_nil, lexemesFrom_nil, List.reverse_nil, hnone, List.append_nil]
  | cons c rest =>
      have hcut : ScanState.start.cutsAt c = true := by
        simpa [ScanState.cutsAt, endsLexeme] using h
      have hnone : lexemesOf [([] : Text).reverse] = [] := rfl
      rw [lexemesFrom_cons_of_cutsAt hcut, lexemesFrom_cons_of_cutsAt hcut, hnone,
        List.nil_append]

/-! ## The two scans agree -/

/-- The automaton cuts in plain mode only, and not behind a backslash. -/
theorem cutsAt_mk (mode : Mode) (escaped : Bool) (c : Char) :
    (⟨mode, escaped⟩ : ScanState).cutsAt c = true ↔
      mode = .plain ∧ escaped = false ∧ isSeparator c = true := by
  simp [ScanState.cutsAt, ScanState.start, and_assoc]

/-- A slash between quotation marks is a character like any other. -/
theorem next_of_ordinary {mode : Mode} {c : Char} (hbackslash : c ≠ '\\') (hquote : c ≠ '"')
    (hopen : ¬ (c = '/' ∧ mode = .plain)) (hclose : ¬ (c = '/' ∧ mode = .pattern)) :
    (⟨mode, false⟩ : ScanState).next c = ⟨mode, false⟩ := by
  by_cases hslash : c = '/'
  · cases mode with
    | plain => exact absurd ⟨hslash, rfl⟩ hopen
    | pattern => exact absurd ⟨hslash, rfl⟩ hclose
    | quoted => simp [ScanState.next, hslash, Mode.afterSlash]
    | quotedInPattern => simp [ScanState.next, hslash, Mode.afterSlash]
  · simp [ScanState.next, hbackslash, hquote, hslash]

/-- The slash that closes a pattern, with the flags behind it. -/
theorem lexemesFrom_closing_slash (held rest : Text) :
    lexemesFrom held ⟨.pattern, false⟩ ('/' :: rest) =
      lexemesFrom ((rest.takeWhile isPatternFlag).reverse ++ '/' :: held) .start
        (rest.dropWhile isPatternFlag) := by
  rw [lexemesFrom_cons (cutsAt_eq_false rfl), ← lexemesFrom_flags]
  rfl

/-- The invariant of the scan: what it still yields are the lexemes of the plain
scan that holds the same text. -/
theorem scan_eq_lexemesFrom (mode : Mode) (escaped : Bool) (held text : Text) :
    scan mode escaped held text = lexemesFrom held ⟨mode, escaped⟩ text := by
  fun_induction scan mode escaped held text with
  | case1 mode escaped held hblank =>
      -- the end, where nothing but blanks is held
      simp only [List.unattach_reverse, List.unattach_attach] at hblank
      rw [lexemesFrom_nil, lexemesOf_singleton_of_strip_eq_nil hblank, hblank]
  | case2 mode escaped held hlexeme =>
      -- the end, with a last lexeme
      simp only [List.unattach_reverse, List.unattach_attach] at hlexeme
      rw [lexemesFrom_nil, lexemesOf_singleton hlexeme]
      split
      · exact (hlexeme ‹_›).elim
      · rfl
  | case3 mode held c rest ih =>
      -- an escaped character
      have hcut : (⟨mode, true⟩ : ScanState).cutsAt c = false := by
        simpa using (cutsAt_mk mode true c).not
      rw [ih, lexemesFrom_cons hcut]
      rfl
  | case4 mode escaped held rest hescaped ih =>
      -- a backslash
      obtain rfl : escaped = false := by simpa using hescaped
      rw [ih, lexemesFrom_cons (cutsAt_eq_false rfl)]
      rfl
  | case5 mode escaped held rest hescaped hc ih =>
      -- a quotation mark
      obtain rfl : escaped = false := by simpa using hescaped
      rw [ih, lexemesFrom_cons (cutsAt_eq_false rfl)]
      rfl
  | case6 mode escaped held c rest hescaped _ _ hslash ih =>
      -- a slash that opens a pattern
      obtain rfl : escaped = false := by simpa using hescaped
      obtain ⟨rfl, rfl⟩ := hslash
      rw [ih, lexemesFrom_cons (cutsAt_eq_false rfl)]
      rfl
  | case7 mode escaped held c rest hescaped _ _ _ hslash _ _ hends hblank ih =>
      -- a slash that closes a pattern; behind the flags nothing but blanks is held
      obtain rfl : escaped = false := by simpa using hescaped
      obtain ⟨rfl, rfl⟩ := hslash
      rw [ih, lexemesFrom_closing_slash]
      rfl
  | case8 mode escaped held c rest hescaped _ _ _ hslash _ _ hends hlexeme ih =>
      -- a slash that closes a pattern, with a lexeme that ends behind the flags
      obtain rfl : escaped = false := by simpa using hescaped
      obtain ⟨rfl, rfl⟩ := hslash
      rw [ih, lexemesFrom_closing_slash, lexemesFrom_of_endsLexeme hends,
        lexemesOf_singleton hlexeme]
      rfl
  | case9 mode escaped held c rest hescaped _ _ _ hslash _ _ hends ih =>
      -- a slash that closes a pattern, with more of the lexeme behind the flags
      obtain rfl : escaped = false := by simpa using hescaped
      obtain ⟨rfl, rfl⟩ := hslash
      rw [ih, lexemesFrom_closing_slash]
      rfl
  | case10 mode escaped held c rest hescaped _ _ _ _ hseparator hblank ih =>
      -- a separator behind blanks: the scan holds on to them, the plain one drops them
      obtain rfl : escaped = false := by simpa using hescaped
      obtain ⟨hc, rfl⟩ := hseparator
      simp only [List.unattach_reverse, List.unattach_attach] at hblank
      rw [lexemesFrom_cons_of_cutsAt ((cutsAt_mk _ _ c).mpr ⟨rfl, rfl, hc⟩),
        lexemesOf_singleton_of_strip_eq_nil hblank, hblank, List.nil_append, ih,
        lexemesFrom_of_allBlank (Text.strip_eq_nil_iff.mp hblank)]
  | case11 mode escaped held c rest hescaped _ _ _ _ hseparator hlexeme ih =>
      -- a separator behind a lexeme
      obtain rfl : escaped = false := by simpa using hescaped
      obtain ⟨hc, rfl⟩ := hseparator
      simp only [List.unattach_reverse, List.unattach_attach] at hlexeme
      rw [lexemesFrom_cons_of_cutsAt ((cutsAt_mk _ _ c).mpr ⟨rfl, rfl, hc⟩),
        lexemesOf_singleton hlexeme, ← ih]
      split
      · exact (hlexeme ‹_›).elim
      · rfl
  | case12 mode escaped held c rest hescaped hbackslash hquote hopen hclose hseparator ih =>
      -- any other character
      obtain rfl : escaped = false := by simpa using hescaped
      have hcut : (⟨mode, false⟩ : ScanState).cutsAt c = false := by
        rw [Bool.eq_false_iff]
        intro h
        obtain ⟨hmode, -, hc⟩ := (cutsAt_mk mode false c).mp h
        exact hseparator ⟨hc, hmode⟩
      rw [ih, lexemesFrom_cons hcut, next_of_ordinary hbackslash hquote hopen hclose]

/-- The lexemes of a query are its stripped pieces without the empty ones. -/
theorem lexemes_eq (text : Text) : lexemes text = lexemesOf (pieces .start text) := by
  rw [lexemes, scan_eq_lexemesFrom, ← lexemesFrom_nil_held]
  rfl

theorem exists_piece_of_mem_lexemes {raw lexeme : Text} (h : lexeme ∈ lexemes raw) :
    lexeme ≠ [] ∧ ∃ piece ∈ pieces .start raw, lexeme = piece.strip := by
  rw [lexemes_eq, lexemesOf, List.mem_filter] at h
  obtain ⟨hmem, hne⟩ := h
  obtain ⟨piece, hpiece, rfl⟩ := List.mem_map.mp hmem
  exact ⟨by simpa using hne, piece, hpiece, rfl⟩

end LogSieve.Query
