import LogSieve.Proofs.Text.Lowering
import LogSieve.Proofs.Text.Parts
import LogSieve.Store.Path

/-!
# The suffix of a name

A suffix is a dot and at least one character, none of which is a dot (`IsSuffix`).  A
name has one exactly if something stands before it, and taking it away leaves just that:
`suffix_append`, `stem_append` and `exists_stem_of_suffix_ne_nil` are the two directions.  Lower
case moves no dot, so a text is a suffix if its lower case is one (`isSuffix_of_lower`).
-/

namespace LogSieve.Store.Path

/-- A dot, and behind it at least one character but no other dot. -/
def IsSuffix (text : Text) : Prop := ∃ rest, text = '.' :: rest ∧ rest ≠ [] ∧ '.' ∉ rest

theorem IsSuffix.ne_nil {text : Text} (h : IsSuffix text) : text ≠ [] := by
  obtain ⟨rest, rfl, -⟩ := h
  exact List.cons_ne_nil '.' rest

theorem suffix_append {stem ending : Text} (hstem : stem ≠ []) (hend : IsSuffix ending) :
    suffix (stem ++ ending) = ending := by
  obtain ⟨rest, rfl, hrest, hdot⟩ := hend
  obtain ⟨c, more, rfl⟩ := List.exists_cons_of_ne_nil hstem
  obtain ⟨d, others, rfl⟩ := List.exists_cons_of_ne_nil hrest
  rw [suffix, Text.splitLast_append_cons hdot]

theorem stem_append {stem ending : Text} (hstem : stem ≠ []) (hend : IsSuffix ending) :
    Path.stem (stem ++ ending) = stem := by
  rw [Path.stem, suffix_append hstem hend, List.length_append, Nat.add_sub_cancel, List.take_left]

/-- The suffix of a name that has one stands behind something. -/
theorem exists_stem_of_suffix_ne_nil {name : Text} (h : suffix name ≠ []) :
    ∃ stem, name = stem ++ suffix name ∧ stem ≠ [] ∧ IsSuffix (suffix name) := by
  unfold suffix at h ⊢
  split
  · rename_i b before c rest hsplit
    obtain ⟨hname, hdot⟩ := Text.splitLast_eq_some hsplit
    exact ⟨b :: before, hname, List.cons_ne_nil _ _, c :: rest, rfl, List.cons_ne_nil _ _, hdot⟩
  · rename_i hnone
    split at h
    · rename_i b before c rest hsplit
      exact absurd hsplit (hnone b before c rest)
    · exact absurd rfl h

theorem isSuffix_of_lower {text : Text} (h : IsSuffix text.lower) : IsSuffix text := by
  obtain ⟨lowered, hlower, hne, hdot⟩ := h
  obtain ⟨rest, rfl, hrest⟩ := Text.exists_of_lower_eq_dot_cons hlower
  refine ⟨rest, rfl, ?_, fun hmem => hdot (hrest ▸ Text.dot_mem_lowerAfter_iff.mpr hmem)⟩
  rintro rfl
  exact hne hrest.symm

end LogSieve.Store.Path
