import LogSieve.Text.Basic
import Mathlib.Data.List.Infix

/-!
# Parts of a text

The library's words for what the tests and cuts of texts find: `occursIn` looks for a
contiguous part, `splitFirst` cuts at a mark before which there is none,
`splitLast` at a mark behind which there is none, and `splitAll` at every mark.
-/

namespace LogSieve.Text

theorem occursIn_iff_isInfix {needle text : Text} :
    occursIn needle text = true ↔ needle <:+: text := by
  induction text with
  | nil => simp [occursIn, List.infix_nil]
  | cons c rest ih => simp [occursIn, List.infix_cons_iff, ih]

/-- The other direction of `splitFirst_eq_some`. -/
theorem splitFirst_append_cons {mark : Char} {before : Text} (h : mark ∉ before) (after : Text) :
    splitFirst mark (before ++ mark :: after) = some (before, after) := by
  induction before with
  | nil => simp [splitFirst]
  | cons c rest ih =>
      simp only [List.mem_cons, not_or] at h
      simp [splitFirst, Ne.symm h.1, ih h.2]

theorem splitFirst_eq_none_of_not_mem {mark : Char} {t : Text} (h : mark ∉ t) :
    splitFirst mark t = none := by
  induction t with
  | nil => rfl
  | cons c rest ih =>
      simp only [List.mem_cons, not_or] at h
      simp [splitFirst, ih h.2, Ne.symm h.1]

theorem splitLast_eq_none_of_not_mem {mark : Char} {t : Text} (h : mark ∉ t) :
    splitLast mark t = none := by
  induction t with
  | nil => rfl
  | cons c rest ih =>
      simp only [List.mem_cons, not_or] at h
      simp [splitLast, ih h.2, Ne.symm h.1]

/-- The other direction of `splitLast_eq_some`. -/
theorem splitLast_append_cons {mark : Char} {after : Text} (h : mark ∉ after) (before : Text) :
    splitLast mark (before ++ mark :: after) = some (before, after) := by
  induction before with
  | nil => simp [splitLast, splitLast_eq_none_of_not_mem h]
  | cons c rest ih => simp [splitLast, ih]

/-- The first piece of a text ends at the first mark. -/
theorem splitAll_append_cons {mark : Char} {before : Text} (h : mark ∉ before) (after : Text) :
    splitAll mark (before ++ mark :: after) = before :: splitAll mark after := by
  induction before with
  | nil => simp [splitAll]
  | cons c rest ih =>
      simp only [List.mem_cons, not_or] at h
      simp [splitAll, Ne.symm h.1, ih h.2]

theorem splitAll_eq_singleton {mark : Char} {t : Text} (h : mark ∉ t) : splitAll mark t = [t] := by
  induction t with
  | nil => rfl
  | cons c rest ih =>
      simp only [List.mem_cons, not_or] at h
      simp [splitAll, Ne.symm h.1, ih h.2]

theorem mem_of_mem_splitAll {c mark : Char} {t piece : Text} (hpiece : piece ∈ splitAll mark t)
    (h : c ∈ piece) : c ∈ t := by
  induction t generalizing piece with
  | nil => simp_all [splitAll]
  | cons d rest ih =>
      rw [splitAll] at hpiece
      split at hpiece
      · rcases List.mem_cons.mp hpiece with rfl | hrest
        · cases h
        · exact List.mem_cons_of_mem d (ih hrest h)
      · obtain ⟨first, others, hsplit⟩ := List.exists_cons_of_ne_nil (splitAll_ne_nil mark rest)
        rw [hsplit] at hpiece
        rcases List.mem_cons.mp hpiece with rfl | hothers
        · rcases List.mem_cons.mp h with rfl | hfirst
          · exact List.mem_cons_self
          · exact List.mem_cons_of_mem d (ih (hsplit ▸ List.mem_cons_self) hfirst)
        · exact List.mem_cons_of_mem d (ih (hsplit ▸ List.mem_cons_of_mem first hothers) h)

/-- A text without its first character does not gain an end. -/
theorem getLast?_ne_of_cons {c d : Char} {rest : Text} (h : (c :: rest).getLast? ≠ some d) :
    rest.getLast? ≠ some d := by
  cases rest with
  | nil => simp
  | cons e more => simpa using h

/-- The last character is a given one or that of what stands behind it. -/
theorem mem_getLast?_append_cons {front rest : Text} {c d : Char}
    (h : c ∈ (front ++ d :: rest).getLast?) : c = d ∨ c ∈ rest.getLast? := by
  rw [List.getLast?_append, List.getLast?_cons] at h
  cases hend : rest.getLast? with
  | none => exact .inl (by simpa [hend, eq_comm] using h)
  | some e => exact .inr (by simpa [hend] using h)

/-- Two equal characters in a row do not appear by putting others around a text. -/
theorem pair_isInfix_surround {c d : Char} {text : Text} (hne : d ≠ c)
    (h : [c, c] <:+: d :: text ++ [d]) : [c, c] <:+: text := by
  rw [List.cons_append, List.infix_cons_iff] at h
  rcases h with h | h
  · exact absurd (List.cons_prefix_cons.mp h).1.symm hne
  · rw [← List.reverse_infix, List.reverse_append, List.reverse_singleton, List.singleton_append,
      List.infix_cons_iff] at h
    rcases h with h | h
    · exact absurd (List.cons_prefix_cons.mp h).1.symm hne
    · rw [← List.reverse_infix]
      exact h

end LogSieve.Text
