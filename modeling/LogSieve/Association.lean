/-!
# Associations

An association keeps key and value pairs in the order in which their keys first
came; a later value for a key takes the place of the earlier one.
-/

namespace LogSieve

/-- Pairs of keys and values without repeated keys, in the order of arrival. -/
abbrev Association (κ α : Type) := List (κ × α)

namespace Association

variable {κ α : Type} [DecidableEq κ]

/-- The value of a key. -/
def get? (key : κ) : Association κ α → Option α
  | [] => none
  | (other, value) :: rest => if other = key then some value else get? key rest

/-- Gives a key a value: in its old place if it has one, else at the end. -/
def put (key : κ) (value : α) : Association κ α → Association κ α
  | [] => [(key, value)]
  | (other, old) :: rest =>
    if other = key then (key, value) :: rest else (other, old) :: put key value rest

/-- The association that a list of pairs leaves behind when they arrive one by one. -/
def ofPairs (pairs : List (κ × α)) : Association κ α :=
  pairs.foldl (fun known pair => put pair.1 pair.2 known) []

@[simp] theorem get?_put (key other : κ) (value : α) (known : Association κ α) :
    get? other (put key value known) = if key = other then some value else get? other known := by
  induction known with
  | nil => simp [put, get?]
  | cons pair rest ih =>
    obtain ⟨first, old⟩ := pair
    by_cases hfirst : first = key
    · subst hfirst
      by_cases hother : first = other <;> simp [put, get?, hother]
    · by_cases hother : first = other
      · subst hother
        simp [put, get?, hfirst, Ne.symm hfirst]
      · simp [put, get?, hfirst, hother, ih]

theorem keys_put (key : κ) (value : α) (known : Association κ α) :
    (put key value known).map Prod.fst =
      if key ∈ known.map Prod.fst then known.map Prod.fst else known.map Prod.fst ++ [key] := by
  induction known with
  | nil => simp [put]
  | cons pair rest ih =>
    obtain ⟨first, old⟩ := pair
    by_cases hfirst : first = key
    · subst hfirst
      simp [put]
    · simp only [put, hfirst, if_false, List.map_cons, ih, List.mem_cons, Ne.symm hfirst,
        false_or]
      split <;> simp

end Association

end LogSieve
