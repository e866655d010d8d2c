import LogSieve.Association
import Mathlib.Data.List.Induction
import Mathlib.Data.List.Nodup

/-!
# Associations have one entry per key

What arrives pair by pair never holds a key twice, so an entry of an association is
the value of its key.  What is left behind in the end can be read off the list of
the pairs: every key once, where it first came, with the value that came last
(`ofPairs_eq_settled`).
-/

namespace LogSieve.Association

variable {κ α : Type} [DecidableEq κ]

theorem nodup_keys_put (key : κ) (value : α) {known : Association κ α}
    (h : (known.map Prod.fst).Nodup) : ((put key value known).map Prod.fst).Nodup := by
  rw [keys_put]
  split
  · exact h
  · rename_i hkey
    exact List.nodup_append.mpr ⟨h, List.nodup_singleton key, by
      intro other hother key' hkey'
      rw [List.mem_singleton] at hkey'
      rintro rfl
      exact hkey (hkey' ▸ hother)⟩

theorem nodup_keys_ofPairs (pairs : List (κ × α)) : ((ofPairs pairs).map Prod.fst).Nodup := by
  have general : ∀ known : Association κ α, (known.map Prod.fst).Nodup →
      ((pairs.foldl (fun known pair => put pair.1 pair.2 known) known).map Prod.fst).Nodup := by
    induction pairs with
    | nil => exact fun _ h => h
    | cons pair rest ih => exact fun known h => ih _ (nodup_keys_put pair.1 pair.2 h)
  exact general [] List.nodup_nil

theorem get?_eq_some_of_mem {known : Association κ α} (h : (known.map Prod.fst).Nodup) {key : κ}
    {value : α} (hmem : (key, value) ∈ known) : get? key known = some value := by
  induction known with
  | nil => simp at hmem
  | cons pair rest ih =>
      obtain ⟨other, old⟩ := pair
      simp only [List.map_cons, List.nodup_cons] at h
      rcases List.mem_cons.mp hmem with heq | hrest
      · obtain ⟨rfl, rfl⟩ := Prod.mk.inj heq
        simp [get?]
      · have hother : other ≠ key := by
          rintro rfl
          exact h.1 (List.mem_map_of_mem hrest)
        simp [get?, hother, ih h.2 hrest]

theorem mem_of_get?_eq_some {known : Association κ α} {key : κ} {value : α}
    (h : get? key known = some value) : (key, value) ∈ known := by
  induction known with
  | nil => cases h
  | cons pair rest ih =>
      obtain ⟨other, old⟩ := pair
      by_cases hother : other = key
      · obtain rfl : old = value := by simpa [get?, hother] using h
        exact hother ▸ List.mem_cons_self
      · exact List.mem_cons_of_mem _ (ih (by simpa [get?, hother] using h))

/-! ## What is left behind -/

/-- The keys of some pairs in the order in which they first came, each with the value that came
last. -/
def settled (pairs : List (κ × α)) : List (κ × α) :=
  (pairs.map Prod.fst).eraseDups.filterMap fun key =>
    (pairs.reverse.lookup key).map fun value => (key, value)

theorem ofPairs_concat (pairs : List (κ × α)) (key : κ) (value : α) :
    ofPairs (pairs ++ [(key, value)]) = put key value (ofPairs pairs) := by
  simp [ofPairs, List.foldl_append]

theorem keys_ofPairs (pairs : List (κ × α)) :
    (ofPairs pairs).map Prod.fst = (pairs.map Prod.fst).eraseDups := by
  induction pairs using List.reverseRecOn with
  | nil => rfl
  | append_singleton pairs pair ih =>
      obtain ⟨key, value⟩ := pair
      rw [ofPairs_concat, keys_put, ih, List.map_append, List.eraseDups_append]
      by_cases hkey : key ∈ pairs.map Prod.fst
      · simp [List.removeAll, hkey]
      · simp [List.removeAll, hkey, List.eraseDups_cons]

theorem get?_ofPairs (key : κ) (pairs : List (κ × α)) :
    get? key (ofPairs pairs) = pairs.reverse.lookup key := by
  induction pairs using List.reverseRecOn with
  | nil => rfl
  | append_singleton pairs pair ih =>
      obtain ⟨other, value⟩ := pair
      rw [ofPairs_concat, get?_put, ih, List.reverse_append, List.reverse_singleton,
        List.singleton_append, List.lookup_cons]
      by_cases hother : other = key
      · simp [hother]
      · have hkey : (key == other) = false := by simpa using Ne.symm hother
        simp [hother, hkey]

/-- An association is given by its keys and their values. -/
theorem eq_filterMap_keys {known : Association κ α} (h : (known.map Prod.fst).Nodup) :
    known = (known.map Prod.fst).filterMap fun key =>
      (get? key known).map fun value => (key, value) := by
  have hpick : ∀ pair ∈ known,
      ((get? pair.1 known).map fun value => (pair.1, value)) = some pair := by
    intro pair hpair
    rw [get?_eq_some_of_mem h hpair]
    rfl
  rw [List.filterMap_map]
  calc known = known.filterMap some := (List.filterMap_some).symm
    _ = _ := List.filterMap_congr fun pair hpair => (hpick pair hpair).symm

/-- What pairs leave behind when they arrive one by one. -/
theorem ofPairs_eq_settled (pairs : List (κ × α)) : ofPairs pairs = settled pairs := by
  rw [eq_filterMap_keys (nodup_keys_ofPairs pairs), keys_ofPairs]
  simp only [get?_ofPairs]
  rfl

/-- Which pairs are left does not depend on what their values are. -/
theorem settled_map {β : Type} (f : α → β) (pairs : List (κ × α)) :
    settled (pairs.map fun pair => (pair.1, f pair.2)) =
      (settled pairs).map fun pair => (pair.1, f pair.2) := by
  have hlookup : ∀ (key : κ) (pairs : List (κ × α)),
      (pairs.map fun pair => (pair.1, f pair.2)).lookup key = (pairs.lookup key).map f := by
    intro key pairs
    induction pairs with
    | nil => rfl
    | cons pair rest ih =>
        rw [List.map_cons, List.lookup_cons, List.lookup_cons, ih]
        split <;> rfl
  simp only [settled, List.map_map, Function.comp_def, List.map_filterMap, ← List.map_reverse,
    hlookup, Option.map_map]

end LogSieve.Association
