import LogSieve.Proofs.Association
import LogSieve.Proofs.Text.Parts
import LogSieve.Proofs.Text.Strip
import LogSieve.Record.OfLine

/-!
# Pairs are read back from the line that they make

A pair can be written with its value between double quotation marks, or bare if
nothing in the value has a meaning to the cutting of words (`Spells`).  Whatever the
way, the cutting holds the key, the equals sign and the value as one word when it
comes to the end of the pair (`cut_spells`): the key brings it into the word, where
the first mark opens quotes and leaves what is held as it is, each backslash inside
takes away one character and gives it back, and the last mark leads back into the
word.  So the words of a line of pairs are the pairs (`ofLine?_spellsLine`).

A line without an opening brace holds no object, so these pairs are its fields
(`ofLine_of_spellsLine`).
-/

namespace LogSieve

variable {stack : Stack}

namespace Words

/-! ## Words -/

/-- Nothing in a text separates words, opens quotes or takes away another character. -/
def IsPlain (text : Text) : Prop := ∀ c ∈ text, isGap c = false ∧ isMark c = false ∧ c ≠ '\\'

/-- A text as it is written between double quotation marks. -/
def escaped (text : Text) : Text :=
  text.flatMap fun c => if c = '"' ∨ c = '\\' then ['\\', c] else [c]

theorem cut_inWord_append {text : Text} (h : IsPlain text) (held rest : Text) :
    cut .inWord held (text ++ rest) = cut .inWord (text.reverse ++ held) rest := by
  induction text generalizing held with
  | nil => rfl
  | cons c more ih =>
      obtain ⟨hgap, hmark, hescape⟩ := h c List.mem_cons_self
      have hmore : IsPlain more := fun d hd => h d (List.mem_cons_of_mem c hd)
      rw [List.cons_append, cut]
      simp only [hgap, hmark, hescape, Bool.false_eq_true, if_false, ih hmore, List.reverse_cons,
        List.append_assoc, List.singleton_append]

/-- A text that is not empty brings the cutting into a word. -/
theorem cut_between_append {text : Text} (h : IsPlain text) (hne : text ≠ []) (rest : Text) :
    cut .between [] (text ++ rest) = cut .inWord text.reverse rest := by
  obtain ⟨c, more, rfl⟩ := List.exists_cons_of_ne_nil hne
  obtain ⟨hgap, hmark, hescape⟩ := h c List.mem_cons_self
  have hmore : IsPlain more := fun d hd => h d (List.mem_cons_of_mem c hd)
  calc cut .between [] (c :: more ++ rest)
      = cut .inWord [c] (more ++ rest) := by
        rw [List.cons_append, cut]
        simp only [hgap, hmark, hescape, Bool.false_eq_true, if_false]
    _ = cut .inWord (more.reverse ++ [c]) rest := cut_inWord_append hmore [c] rest
    _ = cut .inWord (c :: more).reverse rest := by rw [List.reverse_cons]

theorem cut_quoted_append (text held rest : Text) :
    cut (.quoted '"') held (escaped text ++ rest) =
      cut (.quoted '"') (text.reverse ++ held) rest := by
  induction text generalizing held with
  | nil => rfl
  | cons c more ih =>
      rw [escaped, List.flatMap_cons, ← escaped, List.append_assoc, List.reverse_cons,
        List.append_assoc, List.singleton_append, ← ih (c :: held)]
      by_cases hc : c = '"' ∨ c = '\\'
      · -- the backslash and what it takes away
        have hback : ('\\' : Char) ≠ '"' := by decide
        rw [if_pos hc, List.cons_append, cut, List.singleton_append]
        simp only [hback, if_false, and_self, if_true]
        rw [cut, if_pos hc.symm]
      · obtain ⟨hmark, hescape⟩ := not_or.mp hc
        rw [if_neg hc, List.singleton_append, cut]
        simp only [hmark, hescape, false_and, if_false]

/-- Quotes in a word add what stands between them to the word. -/
theorem cut_quotes (text held rest : Text) :
    cut .inWord held ('"' :: escaped text ++ '"' :: rest) =
      cut .inWord (text.reverse ++ held) rest := by
  calc cut .inWord held ('"' :: escaped text ++ '"' :: rest)
      = cut (.quoted '"') held (escaped text ++ '"' :: rest) := by
        rw [List.cons_append, cut]
        simp [isGap, isMark]
    _ = cut (.quoted '"') (text.reverse ++ held) ('"' :: rest) := cut_quoted_append text held _
    _ = cut .inWord (text.reverse ++ held) rest := by
        rw [cut]
        simp only [if_true]

theorem cut_between_gap {gap : Text} (h : ∀ c ∈ gap, isGap c = true) (rest : Text) :
    cut .between [] (gap ++ rest) = cut .between [] rest := by
  induction gap with
  | nil => rfl
  | cons c more ih =>
      rw [List.cons_append, cut]
      simp only [h c List.mem_cons_self, if_true]
      exact ih fun d hd => h d (List.mem_cons_of_mem c hd)

/-- A gap ends a word, and what follows it is cut on its own. -/
theorem cut_inWord_gap {gap : Text} (h : ∀ c ∈ gap, isGap c = true) (hne : gap ≠ [])
    (held rest : Text) :
    cut .inWord held (gap ++ rest) = (cut .between [] rest).map (held.reverse :: ·) := by
  obtain ⟨c, more, rfl⟩ := List.exists_cons_of_ne_nil hne
  rw [List.cons_append, cut]
  simp only [h c List.mem_cons_self, if_true]
  rw [cut_between_gap fun d hd => h d (List.mem_cons_of_mem c hd)]

end Words

namespace Pairs

open Words (IsPlain escaped)

/-! ## Pairs -/

/-- The keys that a pair can be written with. -/
structure IsKey (key : Text) : Prop where
  ne_nil : key ≠ []
  isPlain : IsPlain key
  equals : '=' ∉ key
  brace : '\x7b' ∉ key

/-- The ways to write a pair. -/
inductive Spells : Text × Text → Text → Prop where
  | quoted (key value : Text) :
    Spells (key, value) (key ++ '=' :: '"' :: escaped value ++ ['"'])
  | bare {value : Text} (key : Text) (h : IsPlain value) :
    Spells (key, value) (key ++ '=' :: value)

/-- The word of a pair. -/
def word (pair : Text × Text) : Text := pair.1 ++ '=' :: pair.2

theorem ofWord?_word {pair : Text × Text} (h : IsKey pair.1) : ofWord? (word pair) = some pair := by
  rw [ofWord?, word, Text.splitFirst_append_cons h.equals]
  simp [h.ne_nil]

theorem isPlain_append_equals {key : Text} (h : IsKey key) : IsPlain (key ++ ['=']) := by
  intro c hc
  rcases List.mem_append.mp hc with hkey | hequals
  · exact h.isPlain c hkey
  · rw [List.mem_singleton.mp hequals]
    decide

/-- At the end of a pair the cutting stands in the word of the pair. -/
theorem cut_spells {pair : Text × Text} {text : Text} (hkey : IsKey pair.1)
    (h : Spells pair text) (rest : Text) :
    Words.cut .between [] (text ++ rest) = Words.cut .inWord (word pair).reverse rest := by
  have hstart : ∀ more : Text, Words.cut .between [] (pair.1 ++ '=' :: more) =
      Words.cut .inWord (pair.1 ++ ['=']).reverse more := by
    intro more
    rw [← Words.cut_between_append (isPlain_append_equals hkey) (by simp) more, List.append_assoc,
      List.singleton_append]
  cases h with
  | quoted key value =>
      calc Words.cut .between [] (key ++ '=' :: '"' :: escaped value ++ ['"'] ++ rest)
          = Words.cut .between [] (key ++ '=' :: ('"' :: escaped value ++ '"' :: rest)) := by simp
        _ = Words.cut .inWord (key ++ ['=']).reverse ('"' :: escaped value ++ '"' :: rest) :=
          hstart _
        _ = Words.cut .inWord (value.reverse ++ (key ++ ['=']).reverse) rest :=
          Words.cut_quotes value _ rest
        _ = Words.cut .inWord (word (key, value)).reverse rest := by simp [word]
  | bare key hvalue =>
      rename_i value
      calc Words.cut .between [] (key ++ '=' :: value ++ rest)
          = Words.cut .between [] (key ++ '=' :: (value ++ rest)) := by simp
        _ = Words.cut .inWord (key ++ ['=']).reverse (value ++ rest) := hstart _
        _ = Words.cut .inWord (value.reverse ++ (key ++ ['=']).reverse) rest :=
          Words.cut_inWord_append hvalue _ rest
        _ = Words.cut .inWord (word (key, value)).reverse rest := by simp [word]

/-! ## Lines -/

/-- The lines that pairs make, with spaces and tabs between neighbours. -/
inductive SpellsLine : List (Text × Text) → Text → Prop where
  | nil : SpellsLine [] []
  | last {pair : Text × Text} {text : Text} (h : Spells pair text) : SpellsLine [pair] text
  | cons {pair next : Text × Text} {rest : List (Text × Text)} {text gap line : Text}
    (h : Spells pair text) (hne : gap ≠ []) (hgap : ∀ c ∈ gap, c = ' ' ∨ c = '\t')
    (hrest : SpellsLine (next :: rest) line) : SpellsLine (pair :: next :: rest) (text ++ gap ++ line)

/-- The words of a line of pairs are those of the pairs. -/
theorem ofLine?_spellsLine {pairs : List (Text × Text)} {line : Text}
    (hkeys : ∀ pair ∈ pairs, IsKey pair.1) (h : SpellsLine pairs line) :
    Words.ofLine? line = some (pairs.map word) := by
  unfold Words.ofLine?
  -- along the line: every pair starts between words, behind the gap of the one before
  induction h with
  | nil => rfl
  | @last pair text h =>
      have hcut := cut_spells (hkeys pair List.mem_cons_self) h []
      rw [List.append_nil] at hcut
      rw [hcut, Words.cut, List.reverse_reverse]
      rfl
  | @cons pair next rest text gap line h hne hgap hrest ih =>
      have hblank : ∀ c ∈ gap, Words.isGap c = true := by
        intro c hc
        rcases hgap c hc with rfl | rfl <;> rfl
      have hline := ih fun other hother => hkeys other (List.mem_cons_of_mem pair hother)
      rw [List.append_assoc, cut_spells (hkeys pair List.mem_cons_self) h,
        Words.cut_inWord_gap hblank hne, hline, List.reverse_reverse]
      rfl

theorem ofLine_spellsLine {pairs : List (Text × Text)} {line : Text}
    (hkeys : ∀ pair ∈ pairs, IsKey pair.1) (h : SpellsLine pairs line) :
    ofLine line = Association.settled pairs := by
  have hpairs : (pairs.map word).filterMap ofWord? = pairs := by
    rw [List.filterMap_map]
    calc pairs.filterMap (ofWord? ∘ word)
        = pairs.filterMap some :=
          List.filterMap_congr fun pair hpair => ofWord?_word (hkeys pair hpair)
      _ = pairs := List.filterMap_some
  rw [ofLine, ofLine?_spellsLine hkeys h]
  simp only [hpairs, Association.ofPairs_eq_settled]

/-! ## Lines without objects -/

/-- What has no meaning to a pair comes from its key or its value. -/
theorem mem_of_mem_spells {pair : Text × Text} {text : Text} (h : Spells pair text) {c : Char}
    (hc : c ∈ text) (hmeaning : c ≠ '=' ∧ c ≠ '"' ∧ c ≠ '\\') : c ∈ pair.1 ∨ c ∈ pair.2 := by
  obtain ⟨hequals, hmark, hescape⟩ := hmeaning
  have hescaped : ∀ value : Text, c ∈ escaped value → c ∈ value := by
    intro value hmem
    obtain ⟨d, hd, hc⟩ := List.mem_flatMap.mp hmem
    split at hc
    · obtain rfl : c = d := by simpa [hescape] using hc
      exact hd
    · exact List.mem_singleton.mp hc ▸ hd
  cases h with
  | quoted key value =>
      simp only [List.mem_append, List.mem_cons, hequals, hmark, List.not_mem_nil, or_false,
        false_or] at hc
      exact hc.imp_right (hescaped value)
  | bare key hvalue => simpa [hequals] using hc

/-- Without a brace in a key or a value there is none on the line. -/
theorem brace_not_mem_spellsLine {pairs : List (Text × Text)} {line : Text}
    (hkeys : ∀ pair ∈ pairs, IsKey pair.1) (hvalues : ∀ pair ∈ pairs, '\x7b' ∉ pair.2)
    (h : SpellsLine pairs line) : '\x7b' ∉ line := by
  have hpair : ∀ pair ∈ pairs, ∀ text, Spells pair text → '\x7b' ∉ text := by
    intro pair hpair text htext hmem
    rcases mem_of_mem_spells htext hmem (by decide) with hkey | hvalue
    · exact (hkeys pair hpair).brace hkey
    · exact hvalues pair hpair hvalue
  clear hkeys hvalues
  induction h with
  | nil => exact List.not_mem_nil
  | last h => exact hpair _ List.mem_cons_self _ h
  | @cons pair next rest text gap line h hne hgap hrest ih =>
      have hline := ih fun other hother => hpair other (List.mem_cons_of_mem pair hother)
      have hblank : '\x7b' ∉ gap := by
        intro hmem
        have := hgap _ hmem
        revert this
        decide
      simp only [List.mem_append, not_or]
      exact ⟨⟨hpair pair List.mem_cons_self text h, hblank⟩, hline⟩

end Pairs

/-- A line without an opening brace holds no object. -/
theorem Embedded.content?_of_not_mem {line : Text} (h : '\x7b' ∉ line) :
    content? stack line = .ok none := by
  obtain ⟨front, back, -, -, hstrip⟩ := Text.exists_append_strip_append line
  have hnot : '\x7b' ∉ Text.strip line := by
    intro hmem
    refine h ?_
    rw [hstrip]
    simp [hmem]
  have hdrop : (Text.strip line).dropWhile (· != '\x7b') = [] := by
    refine List.dropWhile_eq_nil_iff.mpr fun c hc => ?_
    simp only [bne_iff_ne, ne_eq]
    rintro rfl
    exact hnot hc
  have hcandidate : candidate? (Text.strip line) = none := by
    simp only [candidate?, hdrop]
  rw [content?, hcandidate]

/-- The fields of a line of pairs are the distinct keys in the order in which they first come, each
with the value that comes last. -/
theorem Pairs.ofLine_of_spellsLine {pairs : List (Text × Text)} {line : Text}
    (hkeys : ∀ pair ∈ pairs, IsKey pair.1) (hvalues : ∀ pair ∈ pairs, '\x7b' ∉ pair.2)
    (h : SpellsLine pairs line) :
    ∃ message, Content.ofLine stack line = .ok ⟨message, Association.settled pairs⟩ := by
  have hcontent : Embedded.content? stack line = .ok none :=
    Embedded.content?_of_not_mem (brace_not_mem_spellsLine hkeys hvalues h)
  refine ⟨((ofLine line).firstNonempty? Content.messageKeys).getD line, ?_⟩
  rw [Content.ofLine, hcontent]
  simp only [Pairs.content, ofLine_spellsLine hkeys h]

/-- A line with two values for one key; the first value holds a mark, the second what takes away
another character. -/
theorem Pairs.spellsLine_threePairs :
    SpellsLine [("a".toList, "x \"y".toList), ("b".toList, "=".toList), ("a".toList, "\\ ".toList)]
      ("a=\"x \\\"y\"".toList ++ " \t ".toList ++
        ("b==".toList ++ " ".toList ++ "a=\"\\\\ \"".toList)) := by
  have hbare : Words.IsPlain "=".toList := by
    intro c hc
    obtain rfl : c = '=' := by simpa using hc
    decide
  have hlast : SpellsLine [("a".toList, "\\ ".toList)] "a=\"\\\\ \"".toList := .last (.quoted _ _)
  have hmiddle : Spells ("b".toList, "=".toList) "b==".toList := .bare _ hbare
  have hfirst : Spells ("a".toList, "x \"y".toList) "a=\"x \\\"y\"".toList := .quoted _ _
  have hgap : ∀ c ∈ " \t ".toList, c = ' ' ∨ c = '\t' := by simp
  have hspace : ∀ c ∈ " ".toList, c = ' ' ∨ c = '\t' := by simp
  exact .cons hfirst (by decide) hgap (.cons hmiddle (by decide) hspace hlast)

/-- The later value of the key counts, in the place of the earlier one. -/
theorem Pairs.ofLine_of_threePairs :
    ∃ message, Content.ofLine .direct "a=\"x \\\"y\" \t b== a=\"\\\\ \"".toList =
      .ok ⟨message, [("a".toList, "\\ ".toList), ("b".toList, "=".toList)]⟩ := by
  have hkey : ∀ c ∈ ['a', 'b'], IsKey [c] := by
    intro c hc
    have hmeaning : (Words.isGap c = false ∧ Words.isMark c = false ∧ c ≠ '\\') ∧ '=' ≠ c ∧
        '\x7b' ≠ c := by
      simp only [List.mem_cons, List.not_mem_nil, or_false] at hc
      rcases hc with rfl | rfl <;> decide
    obtain ⟨hplain, hequals, hbrace⟩ := hmeaning
    exact ⟨by simp, by simpa [Words.IsPlain] using hplain, by simpa using hequals,
      by simpa using hbrace⟩
  have hkeys : ∀ pair ∈ [("a".toList, "x \"y".toList), ("b".toList, "=".toList),
      ("a".toList, "\\ ".toList)], IsKey pair.1 := by
    intro pair hpair
    simp only [List.mem_cons, List.not_mem_nil, or_false] at hpair
    rcases hpair with rfl | rfl | rfl
    · exact hkey 'a' (by decide)
    · exact hkey 'b' (by decide)
    · exact hkey 'a' (by decide)
  exact Pairs.ofLine_of_spellsLine hkeys (by decide) Pairs.spellsLine_threePairs

end LogSieve
