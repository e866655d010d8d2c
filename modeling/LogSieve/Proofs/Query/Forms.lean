import LogSieve.Proofs.Query.Seams
import LogSieve.Proofs.Text.Parts

/-!
# How the forms of a lexeme are read

One equation for each form: a pattern between slashes, a text between quotation
marks, and behind a key either a range or a value.  A key starts neither a pattern
nor a quotation and holds no colon, so the reading of what a key starts depends on
what follows the colon alone: `ofBody_range` and `ofBody_value` for one line,
`ofBody_of_not_line` for what is no line and hence a mere text.
-/

namespace LogSieve.Query

/-- An ASCII word that is not empty. -/
structure IsKey (key : Text) : Prop where
  ne_nil : key ≠ []
  isAsciiWord : ∀ c ∈ key, Text.isAsciiWord c = true

/-- The facts about ASCII word characters that the scan and the reading rest on. -/
theorem isInert_of_isAsciiWord {c : Char} (h : Text.isAsciiWord c = true) :
    isInert c = true ∧ Text.isBlank c = false ∧ c ≠ '-' := by
  have hsmall : ∀ n < 128, Text.isAsciiWord (Char.ofNat n) = true →
      isInert (Char.ofNat n) = true ∧ Text.isBlank (Char.ofNat n) = false ∧
        Char.ofNat n ≠ '-' := by
    decide
  have hc := hsmall c.toNat (Text.toNat_lt_of_isAsciiWord h)
  rw [Char.ofNat_toNat] at hc
  exact hc h

theorem IsKey.exists_cons {key : Text} (h : IsKey key) :
    ∃ c rest, key = c :: rest ∧ Text.isAsciiWord c = true := by
  obtain ⟨c, rest, rfl⟩ := List.exists_cons_of_ne_nil h.ne_nil
  exact ⟨c, rest, rfl, h.isAsciiWord c (by simp)⟩

theorem IsKey.isSealed {key : Text} (h : IsKey key) : IsSealed key :=
  .of_inert fun c hc => (isInert_of_isAsciiWord (h.isAsciiWord c hc)).1

/-! ## Patterns -/

theorem patternOf?_slashes {flags : Text} (h : '/' ∉ flags) (body : Text) :
    patternOf? ('/' :: body ++ '/' :: flags) = some (body, flags) :=
  Text.splitLast_append_cons h body

theorem patternOf?_of_head_ne {t : Text} (h : ∀ c ∈ t.head?, c ≠ '/') : patternOf? t = none := by
  unfold patternOf?
  split
  · exact absurd rfl (h '/' rfl)
  · rfl

/-! ## Lines -/

/-- A text that does not end in a line feed is a line as it stands or none. -/
theorem oneLine?_of_getLast?_ne {t : Text} (h : t.getLast? ≠ some '\n') :
    oneLine? t = if t.isEmpty || t.contains '\n' then none else some t := by
  unfold oneLine?
  split
  · rename_i before hreverse
    rw [List.getLast?_eq_head?_reverse, hreverse] at h
    exact absurd rfl h
  · rfl

theorem oneLine?_eq_some {t : Text} (hne : t ≠ []) (hline : '\n' ∉ t) : oneLine? t = some t := by
  have hend : t.getLast? ≠ some '\n' := fun h => hline (List.mem_of_getLast? h)
  rw [oneLine?_of_getLast?_ne hend]
  simp [hne, hline]

/-- A line feed that is not at the very end is one too many. -/
theorem oneLine?_eq_none {t : Text} (hend : t.getLast? ≠ some '\n') (h : t = [] ∨ '\n' ∈ t) :
    oneLine? t = none := by
  rw [oneLine?_of_getLast?_ne hend]
  simpa [or_iff_not_imp_left] using h

/-! ## Keys -/

theorem takeWhile_isAsciiWord {key : Text} (h : IsKey key) (rest : Text) :
    (key ++ ':' :: rest).takeWhile Text.isAsciiWord = key := by
  rw [List.takeWhile_append_of_pos h.isAsciiWord,
    List.takeWhile_cons_of_neg (show ¬ Text.isAsciiWord ':' = true by decide), List.append_nil]

theorem dropWhile_isAsciiWord {key : Text} (h : IsKey key) (rest : Text) :
    (key ++ ':' :: rest).dropWhile Text.isAsciiWord = ':' :: rest := by
  rw [List.dropWhile_append_of_pos h.isAsciiWord,
    List.dropWhile_cons_of_neg (show ¬ Text.isAsciiWord ':' = true by decide)]

theorem keyed?_append {key : Text} (h : IsKey key) (rest : Text) :
    keyed? (key ++ ':' :: rest) = (oneLine? rest).map fun value => (key, value) := by
  obtain ⟨c, tail, rfl, -⟩ := h.exists_cons
  simp only [keyed?, takeWhile_isAsciiWord h, dropWhile_isAsciiWord h]

theorem keyed?_of_head_not_word {t : Text} (h : ∀ c ∈ t.head?, Text.isAsciiWord c = false) :
    keyed? t = none := by
  cases t with
  | nil => rfl
  | cons c rest =>
      have hc : Text.isAsciiWord c = false := h c rfl
      simp [keyed?, hc]

/-! ## Ranges -/

theorem splitDots_eq_none {t : Text} (h : ¬ ['.', '.'] <:+: t) : splitDots t = none := by
  fun_induction splitDots t with
  | case1 c rest => exact absurd ⟨[], c :: rest, by simp⟩ h
  | case2 c rest _ ih =>
      rw [ih fun hrest => h (List.infix_cons hrest)]
      rfl
  | case3 => rfl

theorem rangeOf?_eq_none {t : Text} (h : ¬ ['.', '.'] <:+: t) : rangeOf? t = none := by
  cases t with
  | nil => rfl
  | cons c rest =>
      rw [rangeOf?, splitDots_eq_none fun hrest => h (List.infix_cons hrest)]
      rfl

/-- The cut is made at the first two dots: none come before them, and none of the two is the last
character of what comes before. -/
theorem splitDots_append {first last : Text} (hdots : ¬ ['.', '.'] <:+: first)
    (hend : first.getLast? ≠ some '.') (hne : last ≠ []) :
    splitDots (first ++ '.' :: '.' :: last) = some (first, last) := by
  induction first with
  | nil =>
      obtain ⟨c, rest, rfl⟩ := List.exists_cons_of_ne_nil hne
      rfl
  | cons c rest ih =>
      have hrest : splitDots (rest ++ '.' :: '.' :: last) = some (rest, last) :=
        ih (fun hrest => hdots (List.infix_cons hrest)) (Text.getLast?_ne_of_cons hend)
      rw [List.cons_append, splitDots, hrest]
      · rfl
      · -- the two dots do not start at the end of what comes before them
        rintro d more rfl hmore
        cases rest with
        | nil => exact hend rfl
        | cons e others =>
            obtain rfl : e = '.' := by simpa using (List.cons.inj hmore).1
            exact hdots ⟨[], others, by simp⟩

theorem rangeOf?_append {first last : Text} (hfirst : first ≠ [])
    (hdots : ¬ ['.', '.'] <:+: first) (hend : first.getLast? ≠ some '.') (hlast : last ≠ []) :
    rangeOf? (first ++ '.' :: '.' :: last) = some (first, last) := by
  obtain ⟨c, rest, rfl⟩ := List.exists_cons_of_ne_nil hfirst
  have hrest : splitDots (rest ++ '.' :: '.' :: last) = some (rest, last) :=
    splitDots_append (fun hrest => hdots (List.infix_cons hrest)) (Text.getLast?_ne_of_cons hend)
      hlast
  simp [rangeOf?, hrest]

/-! ## Whole lexemes -/

theorem ofBody_pattern {flags : Text} (h : '/' ∉ flags) (body : Text) :
    Condition.ofBody ('/' :: body ++ '/' :: flags) = .pattern body flags := by
  rw [Condition.ofBody, patternOf?_slashes h]

@[simp] theorem unquote_quoted (value : Text) : unquote ('"' :: value ++ ['"']) = value := by
  simp [unquote, List.getLast?_cons]

theorem unquote_of_head_ne {t : Text} (h : t.head? ≠ some '"') : unquote t = t := by
  simp [unquote, h]

theorem ofBody_quoted {value : Text} (h : value ≠ []) :
    Condition.ofBody ('"' :: value ++ ['"']) = .text value := by
  have hlength : ('"' :: value ++ ['"']).length > 2 := by
    have := List.length_pos_iff.mpr h
    simp only [List.length_append, List.length_cons, List.length_nil]
    omega
  rw [Condition.ofBody, patternOf?_of_head_ne (by simp),
    keyed?_of_head_not_word (by simpa using by decide)]
  simp only [hlength, if_true, unquote_quoted]

theorem patternOf?_key {key : Text} (h : IsKey key) (rest : Text) :
    patternOf? (key ++ ':' :: rest) = none := by
  obtain ⟨c, tail, rfl, hc⟩ := h.exists_cons
  apply patternOf?_of_head_ne
  intro d hd
  obtain rfl : c = d := by simpa using hd
  rintro rfl
  exact absurd hc (by decide)

/-- Two texts with two dots between them behind a key. -/
theorem ofBody_range {key first last : Text} (hkey : IsKey key) (hfirst : first ≠ [])
    (hdots : ¬ ['.', '.'] <:+: first) (hend : first.getLast? ≠ some '.') (hlast : last ≠ [])
    (hline : '\n' ∉ first ++ '.' :: '.' :: last) :
    Condition.ofBody (key ++ ':' :: (first ++ '.' :: '.' :: last)) =
      rangeCondition key first last := by
  rw [Condition.ofBody, patternOf?_key hkey, keyed?_append hkey,
    oneLine?_eq_some (by simp) hline]
  simp only [Option.map_some, rangeOf?_append hfirst hdots hend hlast]

/-- One line without two dots in a row behind a key. -/
theorem ofBody_value {key value : Text} (hkey : IsKey key) (hne : value ≠ [])
    (hline : '\n' ∉ value) (hdots : ¬ ['.', '.'] <:+: value) :
    Condition.ofBody (key ++ ':' :: value) = fieldCondition key (unquote value) := by
  rw [Condition.ofBody, patternOf?_key hkey, keyed?_append hkey, oneLine?_eq_some hne hline]
  simp only [Option.map_some, rangeOf?_eq_none hdots]

/-- What is not one line behind a key is read as a text, the key with it. -/
theorem ofBody_of_not_line {key rest : Text} (hkey : IsKey key)
    (hend : rest.getLast? ≠ some '\n') (h : rest = [] ∨ '\n' ∈ rest) :
    Condition.ofBody (key ++ ':' :: rest) = .text (key ++ ':' :: rest) := by
  have hunquote : unquote (key ++ ':' :: rest) = key ++ ':' :: rest := by
    obtain ⟨c, tail, rfl, hc⟩ := hkey.exists_cons
    apply unquote_of_head_ne
    rw [List.cons_append, List.head?_cons, ne_eq, Option.some.injEq]
    rintro rfl
    exact absurd hc (by decide)
  rw [Condition.ofBody, patternOf?_key hkey, keyed?_append hkey, oneLine?_eq_none hend h]
  simp only [Option.map_none, hunquote, ite_self]

/-! ## Terms -/

theorem ofLexeme?_dash (body : Text) :
    Term.ofLexeme? ('-' :: body) = some ⟨true, Condition.ofBody body⟩ := rfl

theorem ofLexeme?_of_head_ne {body : Text} (hne : body ≠ []) (h : body.head? ≠ some '-') :
    Term.ofLexeme? body = some ⟨false, Condition.ofBody body⟩ := by
  obtain ⟨c, rest, rfl⟩ := List.exists_cons_of_ne_nil hne
  unfold Term.ofLexeme?
  split
  · contradiction
  · simp_all
  · rfl

end LogSieve.Query
