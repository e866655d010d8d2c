import LogSieve.Proofs.Association
import LogSieve.Store.FileTree
import Mathlib.Data.List.Induction

/-!
# What a path can see of a file tree

A path that never leads back passes every place above its end, so where it leads
could depend on all of them.  It does not depend on those above a directory that it
leads through: what stands anywhere stands in a directory (`IsRooted`), so if the
directory is there, all places above it are directories, and if it is not, the path
leads nowhere.  Two trees that are the same from the directory on are hence the same
for the path (`find_congr`).

A path that leads back ends where its names say, too: two dots take away the name
before them, and a file is never reached by them, so the last name of a path to a file
is that of the file (`at?_placeBehind`, `getLastD_placeBehind`).
-/

namespace LogSieve.Store.FileTree

open LogSieve.Store.Path (up)

/-- Whatever stands somewhere stands in a directory. -/
def IsRooted (tree : FileTree) : Prop :=
  ∀ place name entry, tree.at? (place ++ [name]) = some entry → tree.at? place = some .directory

/-- Two trees are the same at a place and below it. -/
def SameFrom (place : List Text) (first second : FileTree) : Prop :=
  ∀ names, first.at? (place ++ names) = second.at? (place ++ names)

theorem isRooted_of_entries {tree : FileTree}
    (h : ∀ pair ∈ tree.entries, tree.at? pair.1.dropLast = some .directory) : tree.IsRooted := by
  intro place name entry hentry
  have hget : Association.get? (place ++ [name]) tree.entries = some entry := by
    simpa [at?] using hentry
  simpa using h _ (Association.mem_of_get?_eq_some hget)

/-- Above anything that is there, there are directories only. -/
theorem IsRooted.at?_above {tree : FileTree} (h : tree.IsRooted) {place names : List Text}
    (hne : names ≠ []) {entry : Entry} (hentry : tree.at? (place ++ names) = some entry) :
    tree.at? place = some .directory := by
  induction names using List.reverseRecOn generalizing entry with
  | nil => exact absurd rfl hne
  | append_singleton names name ih =>
      rw [← List.append_assoc] at hentry
      have habove : tree.at? (place ++ names) = some .directory := h _ _ _ hentry
      by_cases hnames : names = []
      · simpa [hnames] using habove
      · exact ih hnames habove

/-! ## Following names -/

theorem follow_cons {tree : FileTree} {place : List Text} {name : Text}
    (hplace : tree.at? place = some .directory) (hup : name ≠ up) (hsize : nameSize name ≤ nameLimit)
    (rest : List Text) : tree.follow place (name :: rest) = tree.follow (place ++ [name]) rest := by
  rw [follow, if_neg (not_not_intro hplace), if_neg hup, if_neg (Nat.not_lt.mpr hsize)]

/-- What a path without a way back leads to stands at the end of its names. -/
theorem at?_of_follow_eq_entry {tree : FileTree} {place names : List Text} {entry : Entry}
    (hup : up ∉ names) (h : tree.follow place names = .entry entry) :
    tree.at? (place ++ names) = some entry := by
  induction names generalizing place with
  | nil =>
      rw [List.append_nil]
      cases hplace : tree.at? place with
      | none => simp [follow, hplace] at h
      | some found => simpa [follow, hplace] using h
  | cons name rest ih =>
      obtain ⟨hname, hrest⟩ : up ≠ name ∧ up ∉ rest := by simpa using hup
      rw [follow] at h
      split at h
      · cases h
      · rw [if_neg (Ne.symm hname)] at h
        split at h
        · cases h
        · simpa using ih hrest h

/-- Behind a place where nothing is there is nothing. -/
theorem follow_of_at?_eq_none {tree : FileTree} {place names : List Text}
    (hnone : tree.at? (place ++ names) = none) (hup : up ∉ names)
    (hsize : ∀ name ∈ names, nameSize name ≤ nameLimit) (rest : List Text) :
    tree.follow place (names ++ rest) = .nothing := by
  induction names generalizing place with
  | nil =>
      have hplace : tree.at? place = none := by simpa using hnone
      cases rest with
      | nil => simp [follow, hplace]
      | cons name more => simp [follow, hplace]
  | cons name more ih =>
      obtain ⟨hname, hmore⟩ : up ≠ name ∧ up ∉ more := by simpa using hup
      by_cases hplace : tree.at? place = some .directory
      · rw [List.cons_append,
          follow_cons hplace (Ne.symm hname) (hsize name List.mem_cons_self)]
        exact ih (by simpa using hnone) hmore fun other hother =>
          hsize other (List.mem_cons_of_mem name hother)
      · rw [List.cons_append, follow, if_pos hplace]

/-! ## Ways back -/

/-- The place at the end of some names, of which two dots lead back. -/
def placeBehind (place names : List Text) : List Text :=
  names.foldl (fun kept name => if name = up then kept.dropLast else kept ++ [name]) place

theorem placeBehind_append (place first second : List Text) :
    placeBehind place (first ++ second) = placeBehind (placeBehind place first) second :=
  List.foldl_append

/-- Names are followed one after the other. -/
theorem follow_append_of_eq_entry {tree : FileTree} {place first second : List Text} {entry : Entry}
    (h : tree.follow place (first ++ second) = .entry entry) :
    tree.follow (placeBehind place first) second = .entry entry := by
  induction first generalizing place with
  | nil => exact h
  | cons name rest ih =>
      rw [List.cons_append, follow] at h
      rw [placeBehind, List.foldl_cons]
      split at h
      · cases h
      · split at h
        · rename_i hup
          rw [if_pos hup]
          exact ih h
        · rename_i hup
          rw [if_neg hup]
          split at h
          · cases h
          · exact ih h

/-- What a path leads to stands at the end of its names. -/
theorem at?_placeBehind {tree : FileTree} {place names : List Text} {entry : Entry}
    (h : tree.follow place names = .entry entry) :
    tree.at? (placeBehind place names) = some entry := by
  rw [← List.append_nil names] at h
  have hend := follow_append_of_eq_entry h
  rw [follow] at hend
  split at hend
  · rename_i found hfound
    rw [hfound]
    exact congrArg some (Found.entry.inj hend)
  · cases hend

/-- The last name on the way to a file is the last name of its place. -/
theorem getLastD_placeBehind {tree : FileTree} (hrooted : tree.IsRooted)
    {place names : List Text} (hplace : tree.at? place = some .directory) {bytes : Encoding.Bytes}
    (h : tree.follow place names = .entry (.file bytes)) :
    (placeBehind place names).getLastD [] = names.getLastD [] := by
  have hfile := at?_placeBehind h
  induction names using List.reverseRecOn with
  | nil =>
      -- without a name the way ends at the directory that it starts from
      rw [placeBehind, List.foldl_nil, hplace] at hfile
      cases hfile
  | append_singleton front name _ =>
      have hlast := follow_append_of_eq_entry h
      rw [follow] at hlast
      split at hlast
      · cases hlast
      · rename_i hdirectory
        rw [not_not] at hdirectory
        rw [placeBehind_append, placeBehind, List.foldl_cons, List.foldl_nil] at hfile ⊢
        by_cases hup : name = up
        · -- two dots lead from a directory to the one that it stands in
          rw [if_pos hup] at hfile
          generalize placeBehind place front = below at hdirectory hfile
          induction below using List.reverseRecOn with
          | nil => cases hfile
          | append_singleton above last _ =>
              rw [List.dropLast_concat, hrooted _ _ _ hdirectory] at hfile
              cases hfile
        · rw [if_neg hup, List.getLastD_concat, List.getLastD_concat]

/-! ## Two trees -/

variable {first second : FileTree} {directory : List Text}

theorem follow_congr (hsame : SameFrom directory first second) {names : List Text}
    (hup : up ∉ names) (below : List Text) :
    first.follow (directory ++ below) names = second.follow (directory ++ below) names := by
  induction names generalizing below with
  | nil => rw [follow, follow, hsame below]
  | cons name rest ih =>
      obtain ⟨hname, hrest⟩ : up ≠ name ∧ up ∉ rest := by simpa using hup
      have hnext := ih hrest (below ++ [name])
      rw [← List.append_assoc] at hnext
      rw [follow, follow, hsame below, if_neg (Ne.symm hname), if_neg (Ne.symm hname), hnext]

/-- The directories on the way are passed in both trees, or refused in both for a name that is too
long. -/
theorem follow_congr_through {place names rest : List Text}
    (hfirst : ∀ front name back, names = front ++ name :: back →
      first.at? (place ++ front) = some .directory)
    (hsecond : ∀ front name back, names = front ++ name :: back →
      second.at? (place ++ front) = some .directory)
    (hup : up ∉ names)
    (hrest : first.follow (place ++ names) rest = second.follow (place ++ names) rest) :
    first.follow place (names ++ rest) = second.follow place (names ++ rest) := by
  induction names generalizing place with
  | nil => simpa using hrest
  | cons name more ih =>
      obtain ⟨hname, hmore⟩ : up ≠ name ∧ up ∉ more := by simpa using hup
      have hfirstPlace : first.at? place = some .directory := by
        simpa using hfirst [] name more rfl
      have hsecondPlace : second.at? place = some .directory := by
        simpa using hsecond [] name more rfl
      have hnext : first.follow (place ++ [name]) (more ++ rest) =
          second.follow (place ++ [name]) (more ++ rest) := by
        refine ih ?_ ?_ hmore (by simpa using hrest)
        · rintro front other back rfl
          simpa using hfirst (name :: front) other back rfl
        · rintro front other back rfl
          simpa using hsecond (name :: front) other back rfl
      rw [List.cons_append, follow, follow, if_neg (not_not_intro hfirstPlace),
        if_neg (not_not_intro hsecondPlace), if_neg (Ne.symm hname), if_neg (Ne.symm hname), hnext]

/-- A path through a directory leads to the same in all trees that are the same from this directory
on.  The names of a directory that is not there must be such as a tree can hold: one that is too
long is refused only if all the directories above it are there. -/
theorem find_congr (hfirst : first.IsRooted) (hsecond : second.IsRooted)
    (hsame : SameFrom directory first second)
    (hsize : first.at? directory = none → ∀ name ∈ directory, nameSize name ≤ nameLimit)
    {names : List Text} (hup : up ∉ directory ++ names) :
    first.find [] ⟨['/'], directory ++ names⟩ = second.find [] ⟨['/'], directory ++ names⟩ := by
  obtain ⟨hdirectory, hnames⟩ : up ∉ directory ∧ up ∉ names := by simpa using hup
  have hfollow : first.follow [] (directory ++ names) = second.follow [] (directory ++ names) := by
    have hthere : first.at? directory = second.at? directory := by simpa using hsame []
    cases hentry : first.at? directory with
    | none =>
        -- one tree may end further up than the other, but nothing is found in either
        rw [follow_of_at?_eq_none hentry hdirectory (hsize hentry),
          follow_of_at?_eq_none (hthere ▸ hentry) hdirectory (hsize hentry)]
    | some entry =>
        have habove : ∀ tree : FileTree, tree.IsRooted → tree.at? directory = some entry →
            ∀ front name back, directory = front ++ name :: back →
              tree.at? ([] ++ front) = some .directory := by
          rintro tree hrooted htree front name back rfl
          exact hrooted.at?_above (List.cons_ne_nil name back) htree
        refine follow_congr_through (habove first hfirst hentry)
          (habove second hsecond (hthere ▸ hentry)) hdirectory ?_
        simpa using follow_congr hsame hnames []
  simp only [find, Path.isAbsolute, List.isEmpty_cons, Bool.not_false, if_true, hfollow]

end LogSieve.Store.FileTree
