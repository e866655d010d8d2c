import LogSieve.Proofs.Text.Parts
import LogSieve.Text.Casing

/-!
# Sigmas and what stands around them

The lower case of a piece of a text is the piece's own lower case, character by character,
but for the capital sigmas: a sigma looks for the nearest letters before and after it, and
these may stand outside of the piece.  The two agree exactly if every sigma of the piece has
the same form in both (`KeepsSigmas`, `lowerWithin_eq_iff`), and then the piece is found in
the text when case is ignored (`holdsIgnoringCase_of_keepsSigmas`).

Whether a sigma can change at all depends on the piece alone: it is settled if what decides
about it is inside the piece (`IsSettled`).  Pieces whose sigmas are settled are found
wherever they stand, and no others are (`forall_holdsIgnoringCase_iff`): a single letter in
front of or behind a piece changes a sigma that is not settled.  That the piece then is
nowhere else in that text either is a matter of length: it would have to be there one
character further on, but a text that is itself moved by one consists of one character only.

A word without small sigmas, in turn, does not see which form a sigma has: if it is in the
lower case of a piece, it is in that of every text around the piece
(`isInfix_lower_append_append`).
-/

namespace LogSieve.Text

/-! ## The lower case of a piece -/

/-- The lower case of a piece of a text.  What stands before the piece is given nearest first. -/
def lowerWithin (before after : Text) : Text → Text
  | [] => []
  | c :: rest =>
    (if c = 'Σ' then [sigmaBetween before (rest ++ after)] else lowerOf c) ++
      lowerWithin (c :: before) after rest

theorem lowerAfter_append (before piece after : Text) :
    lowerAfter before (piece ++ after) =
      lowerWithin before after piece ++ lowerAfter (piece.reverse ++ before) after := by
  induction piece generalizing before with
  | nil => rfl
  | cons c rest ih =>
      have hmoved : (c :: rest).reverse ++ before = rest.reverse ++ c :: before := by simp
      rw [List.cons_append, lowerAfter, lowerWithin, ih, hmoved]
      split
      · rfl
      · rw [List.append_assoc]

theorem lowerWithin_nil (before piece : Text) :
    lowerWithin before [] piece = lowerAfter before piece := by
  have happend := lowerAfter_append before piece []
  rw [List.append_nil, lowerAfter, List.append_nil] at happend
  exact happend.symm

/-- The lower case of a text is put together from those of its pieces, each one taken within the
text. -/
theorem lower_append_append (before piece after : Text) :
    lower (before ++ piece ++ after) =
      lowerWithin [] (piece ++ after) before ++ lowerWithin before.reverse after piece ++
        lowerAfter (piece.reverse ++ before.reverse) after := by
  rw [lower, List.append_assoc, lowerAfter_append, lowerAfter_append, List.append_nil,
    List.append_assoc]

/-! ## Sigmas that keep their form -/

/-- Every capital sigma of a piece has the same form within a text as in the piece alone. -/
def KeepsSigmas (before piece after : Text) : Prop :=
  ∀ front back, piece = front ++ 'Σ' :: back →
    sigmaBetween (before ++ front).reverse (back ++ after) = sigmaBetween front.reverse back

/-- The sigmas of a text are its first character, if that is one, and those of the rest. -/
theorem forall_sigma_cons_iff {P : Text → Text → Prop} {c : Char} {rest : Text} :
    (∀ front back, c :: rest = front ++ 'Σ' :: back → P front back) ↔
      (c = 'Σ' → P [] rest) ∧ ∀ front back, rest = front ++ 'Σ' :: back → P (c :: front) back := by
  constructor
  · intro h
    refine ⟨?_, ?_⟩
    · rintro rfl
      exact h [] rest rfl
    · rintro front back rfl
      exact h (c :: front) back rfl
  · rintro ⟨hfirst, hrest⟩ front back htext
    cases front with
    | nil =>
        obtain ⟨rfl, rfl⟩ := List.cons.inj htext
        exact hfirst rfl
    | cons d front =>
        obtain ⟨rfl, htail⟩ := List.cons.inj htext
        exact hrest front back htail

/-- The induction moves the start of the piece, and with it what is known to stand before it:
`inner` is inside of the piece and `outer` is not. -/
theorem lowerWithin_append_eq_iff (inner outer after piece : Text) :
    lowerWithin (inner ++ outer) after piece = lowerWithin inner [] piece ↔
      ∀ front back, piece = front ++ 'Σ' :: back →
        sigmaBetween (front.reverse ++ (inner ++ outer)) (back ++ after) =
          sigmaBetween (front.reverse ++ inner) back := by
  induction piece generalizing inner with
  | nil => simp [lowerWithin]
  | cons c rest ih =>
      have hrest := ih (c :: inner)
      rw [forall_sigma_cons_iff, lowerWithin, lowerWithin, List.append_nil]
      simp only [List.cons_append, List.reverse_cons, List.append_assoc, List.reverse_nil,
        List.nil_append] at hrest ⊢
      rw [← hrest]
      by_cases hc : c = 'Σ'
      · simp [hc]
      · simp [hc]

theorem lowerWithin_eq_iff {before piece after : Text} :
    lowerWithin before.reverse after piece = lower piece ↔ KeepsSigmas before piece after := by
  have hlower : lowerWithin [] [] piece = lower piece := lowerWithin_nil [] piece
  have happend := lowerWithin_append_eq_iff [] before.reverse after piece
  rw [List.nil_append, hlower] at happend
  simpa only [KeepsSigmas, List.reverse_append, List.append_nil] using happend

/-- A piece whose sigmas keep their form is found where it stands. -/
theorem holdsIgnoringCase_of_keepsSigmas {before piece after : Text}
    (h : KeepsSigmas before piece after) :
    holdsIgnoringCase (before ++ piece ++ after) piece = true := by
  rw [holdsIgnoringCase, occursIn_iff_isInfix, lower_append_append, lowerWithin_eq_iff.mpr h]
  exact List.infix_append _ _ _

/-! ## Settled sigmas -/

/-- Whether the first character that is not passed over has a case; there may be none. -/
def nearestCase (t : Text) : Option Bool := (t.find? fun c => !isPassedOver c).map isCased

theorem meetsCased_eq (t : Text) : meetsCased t = (nearestCase t == some true) := by
  induction t with
  | nil => rfl
  | cons c rest ih =>
      unfold meetsCased nearestCase
      by_cases hc : isPassedOver c = true
      · simpa [hc, nearestCase] using ih
      · simp [hc]

theorem nearestCase_append (t more : Text) :
    nearestCase (t ++ more) = (nearestCase t).or (nearestCase more) := by
  simp [nearestCase, List.find?_append, Option.map_or]

theorem nearestCase_letter : nearestCase ['a'] = some true := by decide

/-- What decides about the form of a sigma is between the two ends of a piece: a character without
a case before it, a letter after it, or a letter before it and a character without a case after
it. -/
def IsSettled (before after : Text) : Prop :=
  nearestCase before = some false ∨ nearestCase after = some true ∨
    (nearestCase before = some true ∧ nearestCase after = some false)

/-- Every capital sigma of a text is settled. -/
def SettlesSigmas (piece : Text) : Prop :=
  ∀ front back, piece = front ++ 'Σ' :: back → IsSettled front.reverse back

theorem sigmaBetween_eq (before after : Text) :
    sigmaBetween before after =
      if nearestCase before = some true ∧ nearestCase after ≠ some true then 'ς' else 'σ' := by
  simp [sigmaBetween, meetsCased_eq]

theorem sigmaBetween_append {before after : Text} (h : IsSettled before after)
    (outer more : Text) :
    sigmaBetween (before ++ outer) (after ++ more) = sigmaBetween before after := by
  simp only [sigmaBetween_eq, nearestCase_append]
  rcases h with hbefore | hafter | ⟨hbefore, hafter⟩
  · simp [hbefore]
  · simp [hafter]
  · simp [hbefore, hafter]

theorem SettlesSigmas.keepsSigmas {piece : Text} (h : SettlesSigmas piece) (before after : Text) :
    KeepsSigmas before piece after := by
  intro front back hpiece
  rw [List.reverse_append]
  exact sigmaBetween_append (h front back hpiece) before.reverse after

/-- One letter changes a sigma that is not settled: before it if none is known there, else after
it. -/
theorem sigmaBetween_letter {before after : Text} (h : ¬ IsSettled before after) :
    sigmaBetween (before ++ ['a']) after ≠ sigmaBetween before after ∨
      sigmaBetween before (after ++ ['a']) ≠ sigmaBetween before after := by
  simp only [IsSettled, not_or, not_and] at h
  obtain ⟨hbefore, hafter, hboth⟩ := h
  simp only [sigmaBetween_eq, nearestCase_append, nearestCase_letter]
  cases hb : nearestCase before with
  | none => simp [hafter]
  | some cased =>
      cases ha : nearestCase after with
      | none => simp_all
      | some cased => simp_all

/-! ## The forms of sigmas apart -/

/-- The small sigmas without their difference. -/
def plainSigma (c : Char) : Char := if c = 'ς' then 'σ' else c

theorem plainSigma_sigmaBetween (before after : Text) :
    plainSigma (sigmaBetween before after) = 'σ' := by
  rw [sigmaBetween_eq]
  split
  · rfl
  · rfl

/-- But for the forms of its sigmas the lower case of a piece does not depend on the text. -/
theorem map_plainSigma_lowerWithin (before before' after after' piece : Text) :
    (lowerWithin before after piece).map plainSigma =
      (lowerWithin before' after' piece).map plainSigma := by
  induction piece generalizing before before' with
  | nil => rfl
  | cons c rest ih =>
      rw [lowerWithin, lowerWithin, List.map_append, List.map_append,
        ih (c :: before) (c :: before')]
      by_cases hc : c = 'Σ'
      · simp [hc, plainSigma_sigmaBetween]
      · simp [hc]

theorem sigma_mem_map_plainSigma {front back : Text} (before after : Text) :
    'σ' ∈ (lowerWithin before after (front ++ 'Σ' :: back)).map plainSigma := by
  induction front generalizing before with
  | nil => simp [lowerWithin, plainSigma_sigmaBetween]
  | cons c rest ih =>
      rw [List.cons_append, lowerWithin, List.map_append]
      exact List.mem_append_right _ (ih (c :: before))

theorem map_plainSigma_eq_self {t : Text} (h : 'ς' ∉ t) : t.map plainSigma = t := by
  have hsame : ∀ c ∈ t, plainSigma c = id c := by
    intro c hc
    refine if_neg ?_
    rintro rfl
    exact h hc
  rw [List.map_congr_left hsame, List.map_id]

/-- A word without small sigmas does not see their forms. -/
theorem isInfix_of_map_plainSigma_eq {word text other : Text} (hsigma : 'σ' ∉ word)
    (hfinal : 'ς' ∉ word) (hmap : text.map plainSigma = other.map plainSigma)
    (h : word <:+: text) : word <:+: other := by
  obtain ⟨front, back, hjoined⟩ := h.map plainSigma
  rw [hmap, map_plainSigma_eq_self hfinal] at hjoined
  obtain ⟨start, tail, rfl, hstart, -⟩ := List.map_eq_append_iff.mp hjoined.symm
  obtain ⟨before, part, rfl, -, hpart⟩ := List.map_eq_append_iff.mp hstart
  -- a final sigma of the part would be a sigma of the word
  have hplain : 'ς' ∉ part := by
    intro hmem
    have hmapped : plainSigma 'ς' ∈ part.map plainSigma := List.mem_map_of_mem hmem
    rw [hpart] at hmapped
    exact hsigma hmapped
  rw [map_plainSigma_eq_self hplain] at hpart
  exact hpart ▸ List.infix_append before part tail

/-- Such a word is in the lower case of a text also where the text is a piece of a longer one. -/
theorem isInfix_lower_append_append {word piece : Text} (hsigma : 'σ' ∉ word) (hfinal : 'ς' ∉ word)
    (h : word <:+: lower piece) (before after : Text) :
    word <:+: lower (before ++ piece ++ after) := by
  have hmap : (lower piece).map plainSigma =
      (lowerWithin before.reverse after piece).map plainSigma := by
    rw [lower, ← lowerWithin_nil]
    exact map_plainSigma_lowerWithin [] before.reverse [] after piece
  have hpiece := isInfix_of_map_plainSigma_eq hsigma hfinal hmap h
  rw [lower_append_append]
  exact hpiece.trans (List.infix_append _ _ _)

/-! ## Pieces that are always found -/

/-- A text that is moved by one character when a character is put at its start consists of this
character only. -/
theorem eq_of_append_singleton_eq_cons {t : Text} {c d : Char} (h : t ++ [d] = c :: t) :
    d = c ∧ ∀ e ∈ t, e = c := by
  induction t generalizing c with
  | nil => simpa using h
  | cons e rest ih =>
      obtain ⟨rfl, hrest⟩ := List.cons.inj h
      obtain ⟨hd, hall⟩ := ih hrest
      exact ⟨hd, by simpa using hall⟩

/-- In a text with one character more a piece leaves out the last or the first one. -/
theorem exists_of_isInfix_of_length {piece text : Text} (h : piece <:+: text)
    (hlength : text.length = piece.length + 1) :
    (∃ c, text = piece ++ [c]) ∨ ∃ c, text = c :: piece := by
  obtain ⟨front, back, rfl⟩ := h
  simp only [List.length_append] at hlength
  cases front with
  | nil =>
      obtain ⟨c, rfl⟩ := List.length_eq_one_iff.mp (show back.length = 1 by simpa using hlength)
      exact .inl ⟨c, rfl⟩
  | cons c front =>
      simp only [List.length_cons] at hlength
      obtain rfl : front = [] := List.length_eq_zero_iff.mp (by omega)
      obtain rfl : back = [] := List.length_eq_zero_iff.mp (by omega)
      exact .inr ⟨c, by simp⟩

/-- A text with a sigma is not found next to a letter in a text that differs from it in the forms
of sigmas. -/
theorem not_isInfix_of_map_plainSigma_eq {text other : Text}
    (hmap : text.map plainSigma = other.map plainSigma) (hne : text ≠ other)
    (hsigma : 'σ' ∈ text.map plainSigma) :
    ¬ text <:+: 'a' :: other ∧ ¬ text <:+: other ++ ['a'] := by
  have hlength : other.length = text.length := by
    simpa using (congrArg List.length hmap).symm
  constructor
  · intro hinfix
    rcases exists_of_isInfix_of_length hinfix (by simp [hlength]) with ⟨c, h⟩ | ⟨c, h⟩
    · have hmoved := congrArg (List.map plainSigma) h
      rw [List.map_append, List.map_cons, ← hmap] at hmoved
      obtain ⟨-, hall⟩ := eq_of_append_singleton_eq_cons hmoved.symm
      exact absurd (hall 'σ' hsigma) (by decide)
    · exact hne (List.cons.inj h).2.symm
  · intro hinfix
    rcases exists_of_isInfix_of_length hinfix (by simp [hlength]) with ⟨c, h⟩ | ⟨c, h⟩
    · exact hne (List.append_inj_left' h rfl).symm
    · have hmoved := congrArg (List.map plainSigma) h
      rw [List.map_append, List.map_cons, ← hmap] at hmoved
      obtain ⟨hletter, hall⟩ := eq_of_append_singleton_eq_cons hmoved
      rw [← hletter] at hall
      exact absurd (hall 'σ' hsigma) (by decide)

/-- Of a piece that does not keep its sigmas within a text the lower case differs, but in the forms
of sigmas only. -/
theorem differs_of_not_keepsSigmas {before piece after : Text}
    (h : ¬ KeepsSigmas before piece after) :
    (lower piece).map plainSigma = (lowerWithin before.reverse after piece).map plainSigma ∧
      lower piece ≠ lowerWithin before.reverse after piece ∧
      'σ' ∈ (lower piece).map plainSigma := by
  have hlower : lower piece = lowerWithin [] [] piece := (lowerWithin_nil [] piece).symm
  refine ⟨?_, fun heq => h (lowerWithin_eq_iff.mp heq.symm), ?_⟩
  · rw [hlower]
    exact map_plainSigma_lowerWithin [] before.reverse [] after piece
  · simp only [KeepsSigmas, not_forall] at h
    obtain ⟨front, back, rfl, -⟩ := h
    rw [hlower]
    exact sigma_mem_map_plainSigma [] []

theorem not_holdsIgnoringCase_behind_letter {piece : Text} (h : ¬ KeepsSigmas ['a'] piece []) :
    ¬ holdsIgnoringCase (['a'] ++ piece ++ []) piece = true := by
  obtain ⟨hmap, hne, hsigma⟩ := differs_of_not_keepsSigmas h
  have hlower : lower (['a'] ++ piece ++ []) = 'a' :: lowerWithin ['a'].reverse [] piece := by
    rw [lower_append_append, lowerAfter, List.append_nil]
    rfl
  rw [holdsIgnoringCase, occursIn_iff_isInfix, hlower]
  exact (not_isInfix_of_map_plainSigma_eq hmap hne hsigma).1

theorem not_holdsIgnoringCase_before_letter {piece : Text} (h : ¬ KeepsSigmas [] piece ['a']) :
    ¬ holdsIgnoringCase ([] ++ piece ++ ['a']) piece = true := by
  obtain ⟨hmap, hne, hsigma⟩ := differs_of_not_keepsSigmas h
  have hlower : lower ([] ++ piece ++ ['a']) = lowerWithin [].reverse ['a'] piece ++ ['a'] := by
    rw [lower_append_append]
    rfl
  rw [holdsIgnoringCase, occursIn_iff_isInfix, hlower]
  exact (not_isInfix_of_map_plainSigma_eq hmap hne hsigma).2

/-- A text is found wherever it stands, when case is ignored, exactly if its sigmas are settled. -/
theorem forall_holdsIgnoringCase_iff {piece : Text} :
    (∀ before after, holdsIgnoringCase (before ++ piece ++ after) piece = true) ↔
      SettlesSigmas piece := by
  constructor
  · intro h front back hpiece
    by_contra hnot
    rcases sigmaBetween_letter hnot with hbefore | hafter
    · have hkeeps : ¬ KeepsSigmas ['a'] piece [] := by
        intro hkeeps
        have hform := hkeeps front back hpiece
        rw [List.reverse_append, List.append_nil] at hform
        exact hbefore hform
      exact not_holdsIgnoringCase_behind_letter hkeeps (h ['a'] [])
    · have hkeeps : ¬ KeepsSigmas [] piece ['a'] := fun hkeeps =>
        hafter (hkeeps front back hpiece)
      exact not_holdsIgnoringCase_before_letter hkeeps (h [] ['a'])
  · intro h before after
    exact holdsIgnoringCase_of_keepsSigmas (h.keepsSigmas before after)

end LogSieve.Text
