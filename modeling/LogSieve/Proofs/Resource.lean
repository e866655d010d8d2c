import LogSieve.Proofs.Outcome
import LogSieve.Proofs.Store.FileTree
import LogSieve.Resource

/-!
# Served files are those below the directory

The place that a path means is found without a look at the files, so a path that
leads out of the directory is refused whatever lies there.  Any other path leads
through the directory, and `FileTree.find_congr` says that nothing above or beside it
has a part in what is found: two trees that are the same from the directory on serve
the same texts and refuse the rest for the same reasons (`fileText_confined`).  Only a
directory that is not there, under a name that is too long to be there, gives away
whether the one above it is (`fileText_tells_of_longPlace`).
-/

namespace LogSieve.Resource

open Store (FileTree)

/-- The place that a path means has no way back. -/
theorem up_not_mem_placeOf {homes : Homes} {directory : List Text} {path : Text}
    {place : List Text} (h : placeOf homes directory path = .ok place) :
    Store.Path.up ∉ place := by
  obtain ⟨expanded, -, h⟩ := exists_of_bind_eq_ok h
  split at h
  · cases h
  · rw [← Except.ok.inj h]
    exact Store.Path.up_not_mem_collapse _

/-- The text of a file with this name and these bytes, if it can be read to its end. -/
def served? (name : Text) (bytes : Encoding.Bytes) : Option Text :=
  match (Store.Contents.ofFile name bytes).text .utf8 .replace with
  | (text, none) => some (Encoding.unifyLineEnds text)
  | (_, some _) => none

/-- What is served is the text of a file at the place that the path means, in or below the
directory. -/
theorem exists_file_of_fileText {homes : Homes} {tree : FileTree} {directory : List Text}
    {path text : Text} (h : fileText homes tree directory path = .ok text) :
    ∃ names bytes, placeOf homes directory path = .ok (directory ++ names) ∧
      tree.at? (directory ++ names) = some (.file bytes) ∧
      served? ((directory ++ names).getLastD []) bytes = some text := by
  obtain ⟨place, hplace, h⟩ := exists_of_bind_eq_ok h
  split at h
  · cases h
  · rename_i hinside
    obtain ⟨names, rfl⟩ : directory <+: place := by simpa using hinside
    have hup := up_not_mem_placeOf hplace
    split at h
    · rename_i bytes hfind
      refine ⟨names, bytes, hplace, ?_, ?_⟩
      · have hfollow : tree.follow [] (directory ++ names) = .entry (.file bytes) := by
          unfold FileTree.find at hfind
          split at hfind
          · cases hfind
          · split at hfind
            · cases hfind
            · exact hfind
        simpa using FileTree.at?_of_follow_eq_entry hup hfollow
      · simp only at h
        split at h
        · split at h
          · rename_i hread
            rw [served?, hread]
            exact congrArg some (Except.ok.inj h)
          · cases h
        · cases h
    · cases h
    · cases h

/-- Trees that are the same from the directory on give the same answer to every path, the same text or
the same fault, and a text is always that of a file below the directory.  If the directory is not
there, its names are at least such as a tree can hold. -/
theorem fileText_confined {directory : List Text} {first second : FileTree}
    (hfirst : first.IsRooted) (hsecond : second.IsRooted)
    (hsame : FileTree.SameFrom directory first second)
    (hsize : first.at? directory = none →
      ∀ name ∈ directory, Store.nameSize name ≤ Store.nameLimit)
    (homes : Homes) (path : Text) :
    fileText homes first directory path = fileText homes second directory path ∧
      ∀ text, fileText homes first directory path = .ok text →
        ∃ names bytes, placeOf homes directory path = .ok (directory ++ names) ∧
          first.at? (directory ++ names) = some (.file bytes) ∧
          (first.at? directory = some .directory → names ≠ []) ∧
          served? ((directory ++ names).getLastD []) bytes = some text := by
  constructor
  · unfold fileText
    cases hplace : placeOf homes directory path with
    | error fault => rfl
    | ok place =>
        simp only [bind, Except.bind]
        by_cases hinside : directory.isPrefixOf place = true
        · obtain ⟨names, rfl⟩ : directory <+: place := by simpa using hinside
          rw [FileTree.find_congr hfirst hsecond hsame hsize (up_not_mem_placeOf hplace)]
        · rw [if_pos hinside, if_pos hinside]
  · intro text htext
    obtain ⟨names, bytes, hplace, hfile, hserved⟩ := exists_file_of_fileText htext
    refine ⟨names, bytes, hplace, hfile, ?_, hserved⟩
    rintro hdirectory rfl
    rw [List.append_nil, hdirectory] at hfile
    cases hfile

/-- A tree with one file in the directory `b`, and perhaps one beside that directory. -/
def smallTree (beside : Bool) : FileTree :=
  ⟨[([['b']], .directory), ([['b'], "a.log".toList], .file [0x68, 0x69])] ++
    if beside then [([['c']], .directory), ([['c'], "d.log".toList], .file [0x6F])] else []⟩

/-- The file beside the directory changes nothing, neither for a path that leads out and in again
nor for the path of the file itself. -/
theorem fileText_confined_of_smallTree :
    fileText ⟨"/root".toList, []⟩ (smallTree true) [['b']] "c/../..//b/./a.log".toList =
        .ok ['h', 'i'] ∧
      fileText ⟨"/root".toList, []⟩ (smallTree true) [['b']] "/c/d.log".toList =
        .error .outside := by
  have hrooted : ∀ beside, (smallTree beside).IsRooted := by
    intro beside
    refine FileTree.isRooted_of_entries ?_
    revert beside
    decide
  have hsame : FileTree.SameFrom [['b']] (smallTree false) (smallTree true) := by
    intro names
    simp [smallTree, FileTree.at?, Association.get?]
  have hconfined := fileText_confined (hrooted false) (hrooted true) hsame (by decide)
    ⟨"/root".toList, []⟩
  rw [← (hconfined "c/../..//b/./a.log".toList).1, ← (hconfined "/c/d.log".toList).1]
  exact ⟨by decide +kernel, by decide +kernel⟩

/-- The place of a directory whose name is longer than a tree can hold. -/
def longPlace : List Text := [['p'], List.replicate 256 'b']

/-- A tree with nothing in it or with the directory above that place. -/
def treeAbove (isThere : Bool) : FileTree := ⟨if isThere then [([['p']], .directory)] else []⟩

/-- Where the directory is not there and its name is too long, the trees are the same from it on, and
yet the kind of the fault tells whether the directory above it is there.  And the text of a file is
not its content to the letter: its line ends are unified. -/
theorem fileText_tells_of_longPlace :
    (∀ isThere, (treeAbove isThere).IsRooted) ∧
      FileTree.SameFrom longPlace (treeAbove false) (treeAbove true) ∧
      fileText ⟨"/root".toList, []⟩ (treeAbove false) longPlace "a.log".toList =
        .error (.missing (placeText (longPlace ++ ["a.log".toList]))) ∧
      fileText ⟨"/root".toList, []⟩ (treeAbove true) longPlace "a.log".toList =
        .error (.nameTooLong (placeText (longPlace ++ ["a.log".toList]))) ∧
      fileText ⟨"/root".toList, []⟩
          ⟨[([['b']], .directory), ([['b'], "a.log".toList], .file [0x61, 0x0D, 0x0A, 0x62])]⟩
          [['b']] "a.log".toList = .ok ['a', '\n', 'b'] := by
  have hrooted : ∀ isThere, (treeAbove isThere).IsRooted := by
    intro isThere
    refine FileTree.isRooted_of_entries ?_
    revert isThere
    decide
  have hsame : FileTree.SameFrom longPlace (treeAbove false) (treeAbove true) := by
    intro names
    rfl
  exact ⟨hrooted, hsame, by decide +kernel, by decide +kernel, by decide +kernel⟩

end LogSieve.Resource
