/-!
# Code point ranges

A property of characters is given by the increasing list of the ranges of code
points that have it.  The list is searched in order and the search stops at the
first range that lies beyond the code point.
-/

namespace LogSieve.Text

/-- A list of ranges of code points, both ends included, in increasing order. -/
abbrev Ranges := List (Nat × Nat)

/-- The range of an increasing list that holds the code point. -/
def Ranges.find? (code : Nat) : Ranges → Option (Nat × Nat)
  | [] => none
  | (first, last) :: rest =>
    if code < first then none
    else if code ≤ last then some (first, last)
    else find? code rest

/-- Whether some range of an increasing list holds the code point. -/
def Ranges.holds (code : Nat) (ranges : Ranges) : Bool := (ranges.find? code).isSome

theorem Ranges.find?_eq_some {code first last : Nat} {ranges : Ranges}
    (h : ranges.find? code = some (first, last)) :
    (first, last) ∈ ranges ∧ first ≤ code ∧ code ≤ last := by
  induction ranges with
  | nil => simp [find?] at h
  | cons range rest ih =>
    obtain ⟨low, high⟩ := range
    rw [find?] at h
    split at h
    · simp at h
    · split at h
      · simp only [Option.some.injEq, Prod.mk.injEq] at h
        obtain ⟨rfl, rfl⟩ := h
        exact ⟨List.mem_cons_self, by omega, by omega⟩
      · obtain ⟨hmem, hbounds⟩ := ih h
        exact ⟨List.mem_cons_of_mem _ hmem, hbounds⟩

end LogSieve.Text
