import LogSieve.Proofs.Encoding.Unified
import LogSieve.Proofs.Resource
import LogSieve.Proofs.Scan.PlainFile
import LogSieve.Proofs.Scan.Unlimited

/-!
# Line numbers address the served text

A file can be searched and it can be served, and each way has a reader of its own: one
takes lines from the file, the other its text with unified line ends.  The number of a
record is meant for the second: who looks up this line in the served text finds the
line of the record (`records_address_served`).

Both readers decode the same contents, since the last name of a path decides whether
a file is compressed and two paths to one file end in one name
(`FileTree.getLastD_placeBehind`).  The lines are then those of
`splitAll_unifyLineEnds`, and a scan that keeps all of them numbers every line that is
not blank, once (`raw_of_mem_recordsFrom`, `filter_lineNumber_recordsFrom`).
-/

namespace LogSieve

namespace Scan

variable {stack : Stack}

open Store (Path FileTree)

/-! ## One file, two readers -/

/-- The place that the path of a scan means, if no link is on the way. -/
def placeOf (directory : List Text) (path : Text) : List Text :=
  FileTree.placeBehind (if (Path.ofText path).isAbsolute then [] else directory)
    (Path.ofText path).names

/-- A scan reads the file at the place that its path means, under the name that it has there. -/
theorem exists_file_of_fileAt {tree : FileTree} (hrooted : tree.IsRooted) {directory : List Text}
    (hdirectory : tree.at? directory = some .directory) {path : Text} {bytes : Encoding.Bytes}
    (h : fileAt ⟨tree, directory, stack⟩ (Path.ofText path) = .ok bytes) :
    tree.at? (placeOf directory path) = some (.file bytes) ∧
      (placeOf directory path).getLastD [] = (Path.ofText path).name := by
  have hfind : tree.find directory (Path.ofText path) = .entry (.file bytes) := by
    unfold fileAt at h
    split at h
    · rename_i found hfound
      obtain rfl := Except.ok.inj h
      exact hfound
    · cases h
    · cases h
  unfold FileTree.find at hfind
  split at hfind
  · cases hfind
  · split at hfind
    · cases hfind
    · have hstart : tree.at? (if (Path.ofText path).isAbsolute then [] else directory) =
          some .directory := by
        split
        · rfl
        · exact hdirectory
      exact ⟨FileTree.at?_placeBehind hfind, FileTree.getLastD_placeBehind hrooted hstart hfind⟩

/-- All records of a file whose text is served are those of the lines of this text. -/
theorem exists_lines_of_served {name text : Text} {bytes : Encoding.Bytes}
    (h : Resource.served? name bytes = some text) :
    ∃ lines last, (Store.Contents.ofFile name bytes).lines .utf8 .replace = (lines, none) ∧
      Text.splitAll '\n' text = lines ++ last ∧ (last = [] ∨ last = [[]]) := by
  unfold Resource.served? at h
  split at h
  · rename_i decoded hdecoded
    obtain rfl := Option.some.inj h
    obtain ⟨last, hsplit, hlast⟩ := Encoding.splitAll_unifyLineEnds decoded
    refine ⟨Encoding.linesOfText true decoded, last, ?_, hsplit, hlast⟩
    simp [Store.Contents.lines, hdecoded]
  · cases h

/-- The records of a file in UTF-8 whose malformed bytes are replaced. -/
theorem recordsOfFile_ofFile (host : Host) (path : Text) (query : Query) (window : Window)
    (limit : Option Int) :
    recordsOfFile host (.ofFile path query window limit) =
      (fileAt host (Path.ofText path)).bind fun bytes =>
        recordsIn host.stack
          ((Store.Contents.ofFile (Path.ofText path).name bytes).lines .utf8 .replace) := by
  have hcodec : Encoding.Codec.ofName? "utf-8".toList = some .utf8 := by decide
  unfold recordsOfFile ofFile
  simp only [hcodec]
  rfl

/-- A scan without demands finds the records of all lines. -/
theorem recordsFrom_of_run {tree : FileTree} (hrooted : tree.IsRooted) {directory : List Text}
    (hdirectory : tree.at? directory = some .directory) {path : Text} {query : Query}
    (hquery : query.isEmpty = true) {bytes : Encoding.Bytes}
    (hfile : tree.at? (placeOf directory path) = some (.file bytes)) {lines : List Text}
    (hlines : (Store.Contents.ofFile ((placeOf directory path).getLastD []) bytes).lines .utf8
      .replace = (lines, none)) {records : List Record}
    (h : run ⟨tree, directory, stack⟩ (.ofFile path query .always none) = .ok records) :
    recordsFrom stack 1 lines = .ok records := by
  have hrun : run ⟨tree, directory, stack⟩ (.ofFile path query .always none) =
      (recordsOfFile ⟨tree, directory, stack⟩ (.ofFile path query .always none)).map
        (List.filter (asks stack .always query)) :=
    run_eq_map_filter ⟨tree, directory, stack⟩ (.ofFile path query .always none) .always
  rw [hrun] at h
  obtain ⟨all, hall, hkept⟩ := exists_of_map_eq_ok h
  have hasks : ∀ record ∈ all, asks stack .always query record = true :=
    fun record _ => (asks_of_isEmpty hquery .always record).trans (Window.admits_always record)
  rw [List.filter_eq_self.mpr hasks] at hkept
  rw [recordsOfFile_ofFile] at hall
  obtain ⟨read, hread, hall⟩ := exists_of_bind_eq_ok hall
  obtain ⟨hat, hname⟩ := exists_file_of_fileAt hrooted hdirectory hread
  obtain rfl : bytes = read := by
    rw [hfile] at hat
    exact Store.Entry.file.inj (Option.some.inj hat)
  rw [← hname, hlines] at hall
  unfold recordsIn at hall
  split at hall
  · cases hall
  · rename_i found hfound _
    rw [← hkept, ← Except.ok.inj hall]
    exact hfound
  · rename_i hfault
    cases hfault

/-- If a file is served as a text and a scan of the same file without any demands comes to an end,
the number of each record is that of its line in the text, and each line of the text that is not
blank is that of the one record with its number. -/
theorem records_address_served {tree : FileTree} (hrooted : tree.IsRooted)
    {base working : List Text} (hworking : tree.at? working = some .directory)
    {homes : Resource.Homes} {path text : Text}
    (hserved : Resource.fileText homes tree base path = .ok text) {scanned : Text}
    (hsame : Resource.placeOf homes base path = .ok (placeOf working scanned)) {query : Query}
    (hquery : query.isEmpty = true) {records : List Record}
    (hrecords : run ⟨tree, working, stack⟩ (.ofFile scanned query .always none) = .ok records) :
    (∀ record ∈ records, ∃ i, record.lineNumber = some (Int.ofNat (i + 1)) ∧
        (Text.splitAll '\n' text)[i]? = some record.raw) ∧
      ∀ i line, (Text.splitAll '\n' text)[i]? = some line → line.strip ≠ [] →
        ∃ record, records.filter (fun other => other.lineNumber = some (Int.ofNat (i + 1))) =
          [record] ∧ record.raw = line := by
  obtain ⟨names, bytes, hplace, hfile, hserved⟩ := Resource.exists_file_of_fileText hserved
  have hplaces : base ++ names = placeOf working scanned :=
    Except.ok.inj (hplace.symm.trans hsame)
  rw [hplaces] at hfile hserved
  obtain ⟨lines, last, hlines, hsplit, hlast⟩ := exists_lines_of_served hserved
  have hall := recordsFrom_of_run hrooted hworking hquery hfile hlines hrecords
  rw [hsplit]
  constructor
  · intro record hrecord
    obtain ⟨i, hnumber, hraw⟩ := raw_of_mem_recordsFrom hall hrecord
    rw [Nat.add_comm] at hnumber
    exact ⟨i, hnumber, List.getElem?_append_left (List.getElem?_eq_some_iff.mp hraw).1 ▸ hraw⟩
  · intro i line hline hstrip
    have hblank : Text.allBlank line = false := by
      rw [← Bool.not_eq_true, ← Text.strip_eq_nil_iff]
      exact hstrip
    rw [Nat.add_comm i 1]
    by_cases hi : i < lines.length
    · rw [List.getElem?_append_left hi] at hline
      exact filter_lineNumber_recordsFrom hall hline hblank
    · -- behind the lines there is at most an empty piece
      rw [List.getElem?_append_right (Nat.le_of_not_lt hi)] at hline
      have hmem := List.mem_of_getElem? hline
      rcases hlast with rfl | rfl
      · cases hmem
      · rw [List.mem_singleton.mp hmem] at hstrip
        exact absurd rfl hstrip

/-- A directory with a compressed file: its lines end in all three ways but for the last one, which
has no end, the second line is blank, and a character of the third one is cut off. -/
def packedTree : FileTree :=
  ⟨[([['b']], .directory), ([['c']], .directory),
    ([['b'], "a.log.gz".toList],
      .file (Gzip.pack [0x61, 0x0D, 0x0A, 0x0D, 0xE2, 0x82, 0x0A, 0x62]))]⟩

/-- The records of that file. -/
def packedRecords : List Record :=
  [⟨['a'], none, [], none, some 1, some ['a']⟩,
    ⟨['\uFFFD'], none, [], none, some 3, some ['\uFFFD']⟩,
    ⟨['b'], none, [], none, some 4, some ['b']⟩]

/-- The file is reached on two ways, and the line after the blank one keeps its number. -/
theorem records_address_served_of_packedTree :
    (∀ record ∈ packedRecords, ∃ i, record.lineNumber = some (Int.ofNat (i + 1)) ∧
        (Text.splitAll '\n' ['a', '\n', '\n', '\uFFFD', '\n', 'b'])[i]? = some record.raw) ∧
      ∃ record, packedRecords.filter (fun other => other.lineNumber = some (Int.ofNat (2 + 1))) =
        [record] ∧ record.raw = ['\uFFFD'] := by
  have hrooted : packedTree.IsRooted := FileTree.isRooted_of_entries (by decide)
  have hserved : Resource.fileText ⟨"/root".toList, []⟩ packedTree [['b']]
      "x/../a.log.gz".toList = .ok ['a', '\n', '\n', '\uFFFD', '\n', 'b'] := by
    decide +kernel
  have hrecords : run ⟨packedTree, [['c']], .inLoop⟩
      (.ofFile "../b/./a.log.gz".toList ⟨[], []⟩ .always none) = .ok packedRecords := by
    decide +kernel
  have haddress := records_address_served hrooted (show packedTree.at? [['c']] = _ by decide)
    hserved (by decide +kernel) rfl hrecords
  exact ⟨haddress.1, haddress.2 2 ['\uFFFD'] rfl (by decide)⟩

end Scan

end LogSieve
