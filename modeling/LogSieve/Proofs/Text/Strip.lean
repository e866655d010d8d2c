import LogSieve.Text.Blank
import Mathlib.Data.List.DropRight

/-!
# Stripping

Stripping is a cut at both ends: a text is its stripped form with blank characters
around it, and blank characters put in front or behind do not change that form.
`strip_append_left` and `strip_append_right` say the latter; everything that is
said about the stripped pieces of a query goes back to these two.
-/

namespace LogSieve.Text

theorem allBlank_iff {t : Text} : allBlank t = true ↔ ∀ c ∈ t, isBlank c = true := by
  simp [allBlank]

/-! ## One end -/

/-- The library's cut at the right end, which has the lemmas. -/
theorem stripEnd_eq_rdropWhile (t : Text) : stripEnd t = t.rdropWhile isBlank := rfl

theorem stripEnd_append_singleton {c : Char} (t : Text) (hc : isBlank c = true) :
    stripEnd (t ++ [c]) = stripEnd t :=
  List.rdropWhile_concat_pos isBlank t c hc

theorem stripEnd_append {t blanks : Text} (h : allBlank blanks = true) :
    stripEnd (t ++ blanks) = stripEnd t := by
  induction blanks using List.reverseRecOn with
  | nil => rw [List.append_nil]
  | append_singleton rest c ih =>
      rw [allBlank_iff] at h
      have hc : isBlank c = true := h c (by simp)
      have hrest : allBlank rest = true := allBlank_iff.mpr fun d hd => h d (by simp [hd])
      rw [← List.append_assoc, stripEnd_append_singleton _ hc, ih hrest]

/-- A text that does not end in a blank character keeps its end. -/
theorem stripEnd_eq_self {t : Text} (h : ∀ c ∈ t.getLast?, isBlank c = false) :
    stripEnd t = t := by
  rw [stripEnd_eq_rdropWhile, List.rdropWhile_eq_self_iff]
  intro hne
  simpa using h _ (List.getLast?_eq_getLast_of_ne_nil hne)

/-- What is stripped off the end is blank. -/
theorem exists_stripEnd_append (t : Text) :
    ∃ blanks, allBlank blanks = true ∧ t = stripEnd t ++ blanks := by
  refine ⟨t.rtakeWhile isBlank, ?_, ?_⟩
  · exact allBlank_iff.mpr fun c hc => List.mem_rtakeWhile_imp hc
  · exact List.rdropWhile_append_rtakeWhile.symm

/-- What is left does not end in a blank character. -/
theorem getLast?_stripEnd {t : Text} {c : Char} (h : c ∈ (stripEnd t).getLast?) :
    isBlank c = false := by
  have hne : stripEnd t ≠ [] := by
    rintro hnil
    simp [hnil] at h
  have hlast : (stripEnd t).getLast hne = c := by
    rw [List.getLast?_eq_getLast_of_ne_nil hne] at h
    simpa using h
  have hnot := List.rdropWhile_last_not isBlank t hne
  simpa [hlast] using (show ¬ isBlank ((stripEnd t).getLast hne) = true from hnot)

theorem stripEnd_eq_self_iff {t : Text} :
    stripEnd t = t ↔ ∀ c ∈ t.getLast?, isBlank c = false := by
  constructor
  · intro h c hc
    rw [← h] at hc
    exact getLast?_stripEnd hc
  · exact stripEnd_eq_self

theorem stripStart_append_of_allBlank {blanks : Text} (t : Text) (h : allBlank blanks = true) :
    stripStart (blanks ++ t) = stripStart t := by
  rw [allBlank_iff] at h
  simp only [stripStart, List.dropWhile_append, List.dropWhile_eq_nil_iff.mpr h,
    List.isEmpty_nil, if_true]

/-- A text that does not start with a blank character keeps its start. -/
theorem stripStart_eq_self {t : Text} (h : ∀ c ∈ t.head?, isBlank c = false) :
    stripStart t = t := by
  cases t with
  | nil => rfl
  | cons c rest => simp [stripStart, h c rfl]

/-- A character that is not blank ends what is stripped off in front of it. -/
theorem stripStart_append_cons {c : Char} (hc : isBlank c = false) (front rest : Text) :
    stripStart (front ++ c :: rest) = stripStart front ++ c :: rest := by
  unfold stripStart
  rw [List.dropWhile_append]
  split
  · rename_i hempty
    rw [List.isEmpty_iff.mp hempty, List.nil_append]
    exact List.dropWhile_cons_of_neg (by simp [hc])
  · rfl

theorem stripEnd_append_cons {c : Char} (hc : isBlank c = false) (front back : Text) :
    stripEnd (front ++ c :: back) = front ++ c :: stripEnd back := by
  have hreverse := stripStart_append_cons hc back.reverse front.reverse
  unfold stripStart at hreverse
  simp only [stripEnd, List.reverse_append, List.reverse_cons, List.append_assoc,
    List.singleton_append, hreverse, List.reverse_reverse]

/-! ## Both ends -/

/-- Two characters that are not blank keep what is between them. -/
theorem strip_append_cons_append_cons {c d : Char} (hc : isBlank c = false)
    (hd : isBlank d = false) (front inner back : Text) :
    strip (front ++ c :: inner ++ d :: back) =
      stripStart front ++ c :: inner ++ d :: stripEnd back := by
  rw [strip, List.append_assoc, List.cons_append, stripStart_append_cons hc, ← List.cons_append,
    ← List.append_assoc, stripEnd_append_cons hd]

theorem strip_append_left {blanks : Text} (t : Text) (h : allBlank blanks = true) :
    strip (blanks ++ t) = strip t := by
  unfold strip
  rw [stripStart_append_of_allBlank t h]

theorem strip_eq_nil_iff {t : Text} : strip t = [] ↔ allBlank t = true := by
  unfold strip
  rw [stripEnd_eq_rdropWhile, List.rdropWhile_eq_nil_iff, allBlank_iff]
  constructor
  · intro h c hc
    by_cases hstart : c ∈ stripStart t
    · exact h c hstart
    · rw [← List.takeWhile_append_dropWhile (p := isBlank) (l := t), List.mem_append] at hc
      rcases hc with hc | hc
      · exact List.mem_takeWhile_imp hc
      · exact absurd hc hstart
  · intro h c hc
    exact h c ((List.dropWhile_sublist isBlank).mem hc)

theorem strip_append_right {blanks : Text} (t : Text) (h : allBlank blanks = true) :
    strip (t ++ blanks) = strip t := by
  by_cases ht : allBlank t = true
  · have hboth : allBlank (t ++ blanks) = true := by
      rw [allBlank_iff] at ht h ⊢
      intro c hc
      rcases List.mem_append.mp hc with hc | hc
      · exact ht c hc
      · exact h c hc
    rw [strip_eq_nil_iff.mpr ht, strip_eq_nil_iff.mpr hboth]
  · have hne : t.dropWhile isBlank ≠ [] := by
      intro hnil
      exact ht (allBlank_iff.mpr (List.dropWhile_eq_nil_iff.mp hnil))
    have hstart : stripStart (t ++ blanks) = stripStart t ++ blanks := by
      simp [stripStart, List.dropWhile_append, hne]
    unfold strip
    rw [hstart, stripEnd_append h]

/-- Without blank characters at its ends a text is stripped already. -/
theorem strip_eq_self {t : Text} (hhead : ∀ c ∈ t.head?, isBlank c = false)
    (hlast : ∀ c ∈ t.getLast?, isBlank c = false) : strip t = t := by
  unfold strip
  rw [stripStart_eq_self hhead, stripEnd_eq_self hlast]

/-- A character that is not blank keeps what it is put in front of from being stripped. -/
theorem strip_cons_eq_self {c : Char} {t : Text} (hc : isBlank c = false)
    (hlast : ∀ d ∈ t.getLast?, isBlank d = false) : strip (c :: t) = c :: t := by
  refine strip_eq_self (by simpa using hc) ?_
  cases t with
  | nil => simpa using hc
  | cons d rest => simpa only [List.getLast?_cons_cons] using hlast

theorem getLast?_strip {t : Text} {c : Char} (h : c ∈ (strip t).getLast?) : isBlank c = false :=
  getLast?_stripEnd h

/-- A text is its stripped form between blank characters. -/
theorem exists_append_strip_append (t : Text) :
    ∃ front back, allBlank front = true ∧ allBlank back = true ∧
      t = front ++ strip t ++ back := by
  obtain ⟨back, hback, heq⟩ := exists_stripEnd_append (stripStart t)
  refine ⟨t.takeWhile isBlank, back, ?_, hback, ?_⟩
  · exact allBlank_iff.mpr fun c hc => List.mem_takeWhile_imp hc
  · calc t = t.takeWhile isBlank ++ stripStart t := List.takeWhile_append_dropWhile.symm
      _ = t.takeWhile isBlank ++ (strip t ++ back) := by rw [strip, ← heq]
      _ = t.takeWhile isBlank ++ strip t ++ back := (List.append_assoc ..).symm

/-- What is stripped is stripped once and for all. -/
theorem strip_strip (t : Text) : strip (strip t) = strip t := by
  obtain ⟨front, back, hfront, hback, ht⟩ := exists_append_strip_append t
  have houter : strip t = strip (front ++ strip t ++ back) := congrArg strip ht
  rw [strip_append_right _ hback, strip_append_left _ hfront] at houter
  exact houter.symm

end LogSieve.Text
