import LogSieve.Proofs.Query.Printing

/-!
# The grammar of lexemes

Which lexeme writes which term, said by rules that do not depend on one another's order.
The reading tries the forms of a lexeme one after the other and takes each of them
apart by scanning; here a form is a way to put the lexeme together:

* a pattern is a text between two slashes, the second of them the last one (`IsPattern`);
* a key has one line behind its colon (`IsKeyed`), and that line spans from one end to
  another if there are two dots between them, the first two that do so
  (`IsFirstSpan`);
* whatever is none of these is a text (`IsOther`).

The reading of a lexeme is the one term that the grammar derives for it: each `?` function of
the reading has its form as the exact condition (`patternOf?_eq_some_iff`,
`keyed?_eq_some_iff`, `rangeOf?_eq_some_iff`), and the forms put together are
`ofBody_eq_iff`.
-/

namespace LogSieve.Query

/-! ## Forms -/

/-- A pattern between slashes with its flags behind it. -/
structure IsPattern (text inner flags : Text) : Prop where
  joins : text = '/' :: inner ++ '/' :: flags
  isLast : '/' ∉ flags

/-- A key and one line behind its colon; a line feed at the very end is not part of the line. -/
structure IsKeyed (text key value : Text) : Prop where
  isKey : IsKey key
  joins : text = key ++ ':' :: value ∨ text = key ++ ':' :: (value ++ ['\n'])
  ne_nil : value ≠ []
  isLine : '\n' ∉ value

/-- Two ends, neither of them empty, with two dots between them. -/
structure IsSpan (value first last : Text) : Prop where
  joins : value = first ++ '.' :: '.' :: last
  first_ne_nil : first ≠ []
  last_ne_nil : last ≠ []

/-- The span whose first end is the shortest. -/
structure IsFirstSpan (value first last : Text) : Prop extends IsSpan value first last where
  isShortest : ∀ first' last', IsSpan value first' last' → first.length ≤ first'.length

/-- The inside of quotation marks, and a text without marks at both ends as it stands; a single
mark is both ends and has nothing inside. -/
inductive Unquotes : Text → Text → Prop
  | marks (content : Text) : Unquotes ('"' :: content ++ ['"']) content
  | mark : Unquotes ['"'] []
  | bare {value : Text} (h : ¬ (value.head? = some '"' ∧ value.getLast? = some '"')) :
      Unquotes value value

/-- A text that is neither a pattern nor keyed. -/
structure IsOther (text : Text) : Prop where
  notPattern : ∀ inner flags, ¬ IsPattern text inner flags
  notKeyed : ∀ key value, ¬ IsKeyed text key value

/-- The key for levels and the name of one, both in any case. -/
def NamesLevel (key name : Text) : Prop :=
  key.lower = "level".toList ∧ ∃ severity : Severity, name.lower = severity.name

/-- The key for levels and the names of two of them. -/
def NamesLevels (key first last : Text) : Prop := NamesLevel key first ∧ NamesLevel key last

/-- The condition that a lexeme without its dash writes. -/
inductive Reads : Text → Condition → Prop
  | pattern {body inner flags : Text} (h : IsPattern body inner flags) :
      Reads body (.pattern inner flags)
  | levels {body key value first last : Text} {low high : Severity}
      (hkeyed : IsKeyed body key value) (hspan : IsFirstSpan value first last)
      (hkey : key.lower = "level".toList) (hlow : first.lower = low.name)
      (hhigh : last.lower = high.name) : Reads body (.level (Severity.between low high))
  | range {body key value first last : Text} (hkeyed : IsKeyed body key value)
      (hspan : IsFirstSpan value first last) (hlevels : ¬ NamesLevels key first last) :
      Reads body (.range key first last)
  | level {body key value content : Text} {severity : Severity} (hkeyed : IsKeyed body key value)
      (hspan : ∀ first last, ¬ IsSpan value first last) (hcontent : Unquotes value content)
      (hkey : key.lower = "level".toList) (hname : content.lower = severity.name) :
      Reads body (.level [severity])
  | field {body key value content : Text} (hkeyed : IsKeyed body key value)
      (hspan : ∀ first last, ¬ IsSpan value first last) (hcontent : Unquotes value content)
      (hlevel : ¬ NamesLevel key content) : Reads body (.field key content)
  | quotation {body content : Text} (hother : IsOther body) (hne : content ≠ [])
      (hmarks : body = '"' :: content ++ ['"']) : Reads body (.text content)
  | text {body : Text} (hother : IsOther body)
      (hmarks : ∀ content, body = '"' :: content ++ ['"'] → content = []) :
      Reads body (.text body)

/-- A lexeme without the dash that it may start with. -/
def withoutDash : Text → Text
  | '-' :: body => body
  | body => body

/-- The term that a lexeme writes. -/
structure Writes (lexeme : Text) (term : Term) : Prop where
  ne_nil : lexeme ≠ []
  negates : term.negated = true ↔ lexeme.head? = some '-'
  reads : Reads (withoutDash lexeme) term.condition

/-! ## Patterns and keys -/

/-- A form that is found exactly where it is written is not found exactly where it is not. -/
theorem eq_none_iff_of_eq_some_iff {found : Option (Text × Text)} {form : Text → Text → Prop}
    (h : ∀ first second, found = some (first, second) ↔ form first second) :
    found = none ↔ ∀ first second, ¬ form first second := by
  rw [Option.eq_none_iff_forall_ne_some]
  constructor
  · intro hnone first second hform
    exact hnone (first, second) ((h first second).mpr hform)
  · rintro hnot ⟨first, second⟩ hsome
    exact hnot first second ((h first second).mp hsome)

theorem patternOf?_eq_some_iff {text inner flags : Text} :
    patternOf? text = some (inner, flags) ↔ IsPattern text inner flags := by
  constructor
  · intro h
    unfold patternOf? at h
    split at h
    · obtain ⟨hjoins, hlast⟩ := Text.splitLast_eq_some h
      exact ⟨congrArg ('/' :: ·) hjoins, hlast⟩
    · cases h
  · rintro ⟨rfl, hlast⟩
    exact patternOf?_slashes hlast inner

theorem patternOf?_eq_none_iff {text : Text} :
    patternOf? text = none ↔ ∀ inner flags, ¬ IsPattern text inner flags :=
  eq_none_iff_of_eq_some_iff fun _ _ => patternOf?_eq_some_iff

theorem oneLine?_append_lineFeed (line : Text) :
    oneLine? (line ++ ['\n']) = if line.isEmpty || line.contains '\n' then none else some line := by
  unfold oneLine?
  rw [List.reverse_append, List.reverse_singleton, List.singleton_append]
  simp only [List.reverse_reverse]

/-- A line feed at the very end is left away, and there must be no other one. -/
theorem oneLine?_eq_some_iff {text line : Text} :
    oneLine? text = some line ↔
      (text = line ∨ text = line ++ ['\n']) ∧ line ≠ [] ∧ '\n' ∉ line := by
  constructor
  · intro h
    by_cases hend : text.getLast? = some '\n'
    · obtain ⟨before, rfl⟩ := List.getLast?_eq_some_iff.mp hend
      rw [oneLine?_append_lineFeed] at h
      obtain ⟨hline, hbefore⟩ := Option.ite_none_left_eq_some.mp h
      obtain rfl : before = line := Option.some.inj hbefore
      exact ⟨.inr rfl, by simpa using hline⟩
    · rw [oneLine?_of_getLast?_ne hend] at h
      obtain ⟨hline, htext⟩ := Option.ite_none_left_eq_some.mp h
      obtain rfl : text = line := Option.some.inj htext
      exact ⟨.inl rfl, by simpa using hline⟩
  · rintro ⟨rfl | rfl, hne, hmem⟩
    · exact oneLine?_eq_some hne hmem
    · rw [oneLine?_append_lineFeed]
      simp [hne, hmem]

theorem keyed?_eq_some_iff {text key value : Text} :
    keyed? text = some (key, value) ↔ IsKeyed text key value := by
  constructor
  · intro h
    simp only [keyed?] at h
    split at h
    · rename_i c tail rest hkey hrest
      obtain ⟨line, hline, hpair⟩ := Option.map_eq_some_iff.mp h
      obtain ⟨rfl, rfl⟩ := Prod.mk.inj hpair
      obtain ⟨hjoins, hne, hmem⟩ := oneLine?_eq_some_iff.mp hline
      have htext : text = text.takeWhile Text.isAsciiWord ++ ':' :: rest := by
        rw [← hrest]
        exact List.takeWhile_append_dropWhile.symm
      refine ⟨⟨by simp [hkey], fun d hd => List.mem_takeWhile_imp hd⟩, ?_, hne, hmem⟩
      rcases hjoins with rfl | rfl
      · exact .inl htext
      · exact .inr htext
    · cases h
  · rintro ⟨hkey, rfl | rfl, hne, hmem⟩
    · rw [keyed?_append hkey, oneLine?_eq_some_iff.mpr ⟨.inl rfl, hne, hmem⟩]
      rfl
    · rw [keyed?_append hkey, oneLine?_eq_some_iff.mpr ⟨.inr rfl, hne, hmem⟩]
      rfl

theorem keyed?_eq_none_iff {text : Text} :
    keyed? text = none ↔ ∀ key value, ¬ IsKeyed text key value :=
  eq_none_iff_of_eq_some_iff fun _ _ => keyed?_eq_some_iff

/-! ## Spans -/

/-- Two dots with something behind them; what stands in front of them may be empty. -/
structure HasDots (text front back : Text) : Prop where
  joins : text = front ++ '.' :: '.' :: back
  back_ne_nil : back ≠ []

theorem hasDots_cons_cons_iff {c d : Char} {text front back : Text} :
    HasDots (c :: text) (d :: front) back ↔ d = c ∧ HasDots text front back := by
  constructor
  · rintro ⟨hjoins, hne⟩
    obtain ⟨rfl, htext⟩ := List.cons.inj hjoins
    exact ⟨rfl, htext, hne⟩
  · rintro ⟨rfl, rfl, hne⟩
    exact ⟨rfl, hne⟩

/-- The cut is made at the first two dots that something follows. -/
theorem hasDots_of_splitDots {text front back : Text} (h : splitDots text = some (front, back)) :
    HasDots text front back ∧
      ∀ front' back', HasDots text front' back' → front.length ≤ front'.length := by
  fun_induction splitDots text generalizing front with
  | case1 c rest =>
      obtain ⟨rfl, rfl⟩ := Prod.mk.inj (Option.some.inj h)
      exact ⟨⟨rfl, List.cons_ne_nil c rest⟩, fun _ _ _ => Nat.zero_le _⟩
  | case2 c rest hnot ih =>
      obtain ⟨⟨front, other⟩, hrest, hpair⟩ := Option.map_eq_some_iff.mp h
      obtain ⟨rfl, rfl⟩ := Prod.mk.inj hpair
      obtain ⟨hdots, hshortest⟩ := ih hrest
      refine ⟨hasDots_cons_cons_iff.mpr ⟨rfl, hdots⟩, ?_⟩
      intro front' back' hother
      cases front' with
      | nil =>
          -- two dots at the very start would have been taken
          obtain ⟨d, more, rfl⟩ := List.exists_cons_of_ne_nil hother.back_ne_nil
          obtain ⟨rfl, rfl⟩ := List.cons.inj hother.joins
          exact absurd rfl (hnot d more rfl)
      | cons d front' =>
          have hfront := hshortest front' back' (hasDots_cons_cons_iff.mp hother).2
          simpa using hfront
  | case3 => cases h

theorem exists_splitDots {text front back : Text} (h : HasDots text front back) :
    ∃ parts, splitDots text = some parts := by
  induction front generalizing text with
  | nil =>
      obtain ⟨rfl, hne⟩ := h
      obtain ⟨c, rest, rfl⟩ := List.exists_cons_of_ne_nil hne
      exact ⟨([], c :: rest), rfl⟩
  | cons d front ih =>
      obtain ⟨rfl, hne⟩ := h
      obtain ⟨parts, hparts⟩ := ih ⟨rfl, hne⟩
      rw [List.cons_append]
      unfold splitDots
      split
      · exact ⟨_, rfl⟩
      · rename_i hcons
        obtain ⟨rfl, rfl⟩ := List.cons.inj hcons
        exact ⟨_, by rw [hparts]; rfl⟩
      · contradiction

/-- The first character of a span belongs to its first end. -/
theorem isSpan_cons_iff {c : Char} {rest first last : Text} :
    IsSpan (c :: rest) first last ↔ ∃ front, first = c :: front ∧ HasDots rest front last := by
  constructor
  · rintro ⟨hjoins, hfirst, hlast⟩
    obtain ⟨d, front, rfl⟩ := List.exists_cons_of_ne_nil hfirst
    obtain ⟨rfl, hrest⟩ := List.cons.inj hjoins
    exact ⟨front, rfl, hrest, hlast⟩
  · rintro ⟨front, rfl, rfl, hlast⟩
    exact ⟨rfl, List.cons_ne_nil c front, hlast⟩

theorem IsSpan.ne_nil {value first last : Text} (h : IsSpan value first last) : value ≠ [] := by
  rw [h.joins]
  simp

/-- Two first spans of a value are the same. -/
theorem IsFirstSpan.eq {value first last first' last' : Text} (h : IsFirstSpan value first last)
    (h' : IsFirstSpan value first' last') : first' = first ∧ last' = last := by
  have hlength : first'.length = first.length := by
    have hle := h.isShortest first' last' h'.toIsSpan
    have hge := h'.isShortest first last h.toIsSpan
    omega
  have hjoins : first' ++ '.' :: '.' :: last' = first ++ '.' :: '.' :: last := by
    rw [← h'.joins, ← h.joins]
  obtain ⟨hfirst, hdots⟩ := List.append_inj hjoins hlength
  exact ⟨hfirst, by simpa using hdots⟩

theorem isFirstSpan_of_rangeOf? {value first last : Text} (h : rangeOf? value = some (first, last)) :
    IsFirstSpan value first last := by
  cases value with
  | nil => cases h
  | cons c rest =>
      obtain ⟨⟨front, back⟩, hrest, hpair⟩ := Option.map_eq_some_iff.mp h
      obtain ⟨rfl, rfl⟩ := Prod.mk.inj hpair
      obtain ⟨hdots, hshortest⟩ := hasDots_of_splitDots hrest
      refine ⟨isSpan_cons_iff.mpr ⟨front, rfl, hdots⟩, ?_⟩
      intro first' last' hother
      obtain ⟨front', rfl, hdots'⟩ := isSpan_cons_iff.mp hother
      have hfront := hshortest front' last' hdots'
      simpa using hfront

theorem rangeOf?_eq_none_iff {value : Text} :
    rangeOf? value = none ↔ ∀ first last, ¬ IsSpan value first last := by
  constructor
  · intro h first last hspan
    cases value with
    | nil => exact hspan.ne_nil rfl
    | cons c rest =>
        obtain ⟨front, -, hdots⟩ := isSpan_cons_iff.mp hspan
        obtain ⟨parts, hparts⟩ := exists_splitDots hdots
        rw [rangeOf?, hparts] at h
        cases h
  · intro h
    rw [Option.eq_none_iff_forall_ne_some]
    rintro ⟨first, last⟩ hsome
    exact h first last (isFirstSpan_of_rangeOf? hsome).toIsSpan

theorem rangeOf?_eq_some_iff {value first last : Text} :
    rangeOf? value = some (first, last) ↔ IsFirstSpan value first last := by
  constructor
  · exact isFirstSpan_of_rangeOf?
  · intro h
    cases hrange : rangeOf? value with
    | none => exact absurd h.toIsSpan (rangeOf?_eq_none_iff.mp hrange first last)
    | some parts =>
        obtain ⟨rfl, rfl⟩ := h.eq (isFirstSpan_of_rangeOf? hrange)
        rfl

/-! ## Names and quotation marks -/

theorem ofName?_eq_some_iff {name : Text} {severity : Severity} :
    Severity.ofName? name = some severity ↔ name.lower = severity.name := by
  constructor
  · intro h
    have hname := List.find?_some h
    exact (beq_iff_eq.mp hname).symm
  · intro h
    rw [Severity.ofName?, h, Severity.ofExactName?_name]

theorem isLevelKey_iff {key : Text} : isLevelKey key = true ↔ key.lower = "level".toList :=
  beq_iff_eq

theorem namesLevel_iff {key name : Text} :
    NamesLevel key name ↔ isLevelKey key = true ∧ (Severity.ofName? name).isSome = true := by
  simp only [NamesLevel, isLevelKey_iff, Option.isSome_iff_exists, ofName?_eq_some_iff]

theorem namesLevels_iff {key first last : Text} :
    NamesLevels key first last ↔ isLevelKey key = true ∧
      (Severity.ofName? first).isSome = true ∧ (Severity.ofName? last).isSome = true := by
  simp only [NamesLevels, namesLevel_iff]
  exact and_and_left.symm

/-- A text with marks at both ends is a single mark or has something between them. -/
theorem eq_mark_or_marks {value : Text} (hhead : value.head? = some '"')
    (hlast : value.getLast? = some '"') :
    value = ['"'] ∨ ∃ content, value = '"' :: content ++ ['"'] := by
  obtain ⟨rest, rfl⟩ := List.head?_eq_some_iff.mp hhead
  cases rest using List.reverseRecOn with
  | nil => exact .inl rfl
  | append_singleton content d =>
      obtain rfl : d = '"' := by simpa [List.getLast?_cons] using hlast
      exact .inr ⟨content, rfl⟩

theorem unquotes_iff {value content : Text} : Unquotes value content ↔ unquote value = content := by
  constructor
  · rintro (⟨content⟩ | _ | h)
    · exact unquote_quoted content
    · rfl
    · exact if_neg h
  · rintro rfl
    by_cases hmarks : value.head? = some '"' ∧ value.getLast? = some '"'
    · rcases eq_mark_or_marks hmarks.1 hmarks.2 with rfl | ⟨content, rfl⟩
      · exact .mark
      · rw [unquote_quoted]
        exact .marks content
    · rw [unquote, if_neg hmarks]
      exact .bare hmarks

/-! ## The reading follows the grammar -/

theorem IsKeyed.patternOf?_eq_none {body key value : Text} (h : IsKeyed body key value) :
    patternOf? body = none := by
  rcases h.joins with rfl | rfl
  · exact patternOf?_key h.isKey _
  · exact patternOf?_key h.isKey _

theorem IsKeyed.ofBody_of_isFirstSpan {body key value first last : Text}
    (h : IsKeyed body key value) (hspan : IsFirstSpan value first last) :
    Condition.ofBody body = rangeCondition key first last := by
  rw [Condition.ofBody, h.patternOf?_eq_none, keyed?_eq_some_iff.mpr h]
  simp only [rangeOf?_eq_some_iff.mpr hspan]

theorem IsKeyed.ofBody_of_unquotes {body key value content : Text} (h : IsKeyed body key value)
    (hspan : ∀ first last, ¬ IsSpan value first last) (hcontent : Unquotes value content) :
    Condition.ofBody body = fieldCondition key content := by
  rw [Condition.ofBody, h.patternOf?_eq_none, keyed?_eq_some_iff.mpr h]
  simp only [rangeOf?_eq_none_iff.mpr hspan, unquotes_iff.mp hcontent]

theorem IsOther.ofBody_eq_text {body : Text} (h : IsOther body)
    (hmarks : ∀ content, body = '"' :: content ++ ['"'] → content = []) :
    Condition.ofBody body = .text body := by
  have hbody : (if body.length > 2 then unquote body else body) = body := by
    split
    · rename_i hlength
      apply if_neg
      rintro ⟨hhead, hlast⟩
      -- marks at both ends of more than two characters have something between them
      rcases eq_mark_or_marks hhead hlast with rfl | ⟨content, rfl⟩
      · simp at hlength
      · obtain rfl := hmarks content rfl
        simp at hlength
    · rfl
  rw [Condition.ofBody, patternOf?_eq_none_iff.mpr h.notPattern, keyed?_eq_none_iff.mpr h.notKeyed]
  simp only [hbody]

/-- One case for each rule. -/
theorem Reads.ofBody_eq {body : Text} {condition : Condition} (h : Reads body condition) :
    Condition.ofBody body = condition := by
  cases h with
  | pattern h => rw [h.joins, ofBody_pattern h.isLast]
  | levels hkeyed hspan hkey hlow hhigh =>
      rw [hkeyed.ofBody_of_isFirstSpan hspan]
      simp only [rangeCondition, isLevelKey_iff.mpr hkey, ofName?_eq_some_iff.mpr hlow,
        ofName?_eq_some_iff.mpr hhigh]
  | range hkeyed hspan hlevels =>
      rw [hkeyed.ofBody_of_isFirstSpan hspan]
      exact rangeCondition_eq_range fun h => hlevels (namesLevels_iff.mpr h)
  | level hkeyed hspan hcontent hkey hname =>
      rw [hkeyed.ofBody_of_unquotes hspan hcontent]
      simp only [fieldCondition, isLevelKey_iff.mpr hkey, ofName?_eq_some_iff.mpr hname]
  | field hkeyed hspan hcontent hlevel =>
      rw [hkeyed.ofBody_of_unquotes hspan hcontent, fieldCondition_eq_field_iff]
      exact ⟨rfl, fun h => hlevel (namesLevel_iff.mpr h)⟩
  | quotation hother hne hmarks => rw [hmarks, ofBody_quoted hne]
  | text hother hmarks => exact hother.ofBody_eq_text hmarks

/-- What a key starts is a range of levels or of texts, or one level or a field. -/
theorem IsKeyed.exists_reads {body key value : Text} (h : IsKeyed body key value) :
    ∃ condition, Reads body condition := by
  cases hrange : rangeOf? value with
  | some ends =>
      obtain ⟨first, last⟩ := ends
      have hspan : IsFirstSpan value first last := rangeOf?_eq_some_iff.mp hrange
      by_cases hlevels : NamesLevels key first last
      · obtain ⟨⟨hkey, low, hlow⟩, -, high, hhigh⟩ := hlevels
        exact ⟨_, .levels h hspan hkey hlow hhigh⟩
      · exact ⟨_, .range h hspan hlevels⟩
  | none =>
      have hspan := rangeOf?_eq_none_iff.mp hrange
      have hcontent : Unquotes value (unquote value) := unquotes_iff.mpr rfl
      by_cases hlevel : NamesLevel key (unquote value)
      · obtain ⟨hkey, severity, hname⟩ := hlevel
        exact ⟨_, .level h hspan hcontent hkey hname⟩
      · exact ⟨_, .field h hspan hcontent hlevel⟩

theorem IsOther.exists_reads {body : Text} (h : IsOther body) :
    ∃ condition, Reads body condition := by
  by_cases hmarks : ∃ content, content ≠ [] ∧ body = '"' :: content ++ ['"']
  · obtain ⟨content, hne, hbody⟩ := hmarks
    exact ⟨_, .quotation h hne hbody⟩
  · refine ⟨_, .text h ?_⟩
    intro content hbody
    by_contra hne
    exact hmarks ⟨content, hne, hbody⟩

/-- The grammar covers every text. -/
theorem exists_reads (body : Text) : ∃ condition, Reads body condition := by
  by_cases hpattern : ∃ inner flags, IsPattern body inner flags
  · obtain ⟨inner, flags, h⟩ := hpattern
    exact ⟨_, .pattern h⟩
  · by_cases hkeyed : ∃ key value, IsKeyed body key value
    · obtain ⟨key, value, h⟩ := hkeyed
      exact h.exists_reads
    · have hother : IsOther body :=
        ⟨fun inner flags h => hpattern ⟨inner, flags, h⟩,
          fun key value h => hkeyed ⟨key, value, h⟩⟩
      exact hother.exists_reads

/-- The reading of a lexeme without its dash is what the grammar derives, and nothing else. -/
theorem ofBody_eq_iff {body : Text} {condition : Condition} :
    Condition.ofBody body = condition ↔ Reads body condition := by
  constructor
  · rintro rfl
    obtain ⟨condition, hreads⟩ := exists_reads body
    rw [hreads.ofBody_eq]
    exact hreads
  · exact Reads.ofBody_eq

/-! ## Terms -/

theorem withoutDash_of_head_ne {lexeme : Text} (h : lexeme.head? ≠ some '-') :
    withoutDash lexeme = lexeme := by
  unfold withoutDash
  split
  · exact absurd rfl h
  · rfl

theorem ofLexeme?_eq {lexeme : Text} (hne : lexeme ≠ []) :
    Term.ofLexeme? lexeme =
      some ⟨decide (lexeme.head? = some '-'), Condition.ofBody (withoutDash lexeme)⟩ := by
  by_cases hdash : lexeme.head? = some '-'
  · obtain ⟨body, rfl⟩ := List.head?_eq_some_iff.mp hdash
    rfl
  · rw [ofLexeme?_of_head_ne hne hdash, withoutDash_of_head_ne hdash, decide_eq_false hdash]

theorem reads_of_ofLexeme? {lexeme : Text} {term : Term}
    (h : Term.ofLexeme? lexeme = some term) : Reads (withoutDash lexeme) term.condition := by
  have hne : lexeme ≠ [] := by
    rintro rfl
    cases h
  rw [ofLexeme?_eq hne] at h
  obtain rfl := Option.some.inj h
  exact ofBody_eq_iff.mp rfl

/-- The term that a lexeme writes is the one that it is read as. -/
theorem ofLexeme?_of_writes {lexeme : Text} {term : Term} (h : Writes lexeme term) :
    Term.ofLexeme? lexeme = some term := by
  have hnegated : decide (lexeme.head? = some '-') = term.negated := by
    rw [Bool.eq_iff_iff, decide_eq_true_eq]
    exact h.negates.symm
  rw [ofLexeme?_eq (Writes.ne_nil h), hnegated, h.reads.ofBody_eq]

/-- A lexeme is read as the one term that the grammar derives for it. -/
theorem exists_ofLexeme?_iff_writes {lexeme : Text} (hne : lexeme ≠ []) :
    ∃ term, Term.ofLexeme? lexeme = some term ∧ ∀ other, Writes lexeme other ↔ other = term := by
  refine ⟨_, ofLexeme?_eq hne, ?_⟩
  intro other
  constructor
  · intro h
    exact Option.some.inj ((ofLexeme?_of_writes h).symm.trans (ofLexeme?_eq hne))
  · rintro rfl
    exact ⟨hne, decide_eq_true_iff, ofBody_eq_iff.mp rfl⟩

/-- The first two dots would leave nothing in front of them, and the line feed is not part of the
value. -/
theorem writes_manyDots :
    "-k:...b..c\n".toList ≠ [] ∧
      Term.ofLexeme? "-k:...b..c\n".toList = some ⟨true, .range ['k'] ['.'] "b..c".toList⟩ ∧
      ∀ other, Writes "-k:...b..c\n".toList other ↔
        other = ⟨true, .range ['k'] ['.'] "b..c".toList⟩ := by
  have hne : "-k:...b..c\n".toList ≠ [] := by decide
  have hread : Term.ofLexeme? "-k:...b..c\n".toList =
      some ⟨true, .range ['k'] ['.'] "b..c".toList⟩ := by decide
  obtain ⟨term, hterm, hwrites⟩ := exists_ofLexeme?_iff_writes hne
  obtain rfl := Option.some.inj (hread.symm.trans hterm)
  exact ⟨hne, hread, hwrites⟩

end LogSieve.Query
