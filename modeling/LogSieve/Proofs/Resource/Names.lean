import LogSieve.Proofs.Resource
import LogSieve.Proofs.Encoding.Utf8
import LogSieve.Proofs.Store.Contents
import LogSieve.Proofs.Store.Suffix

/-!
# Served names

Which files are served is a matter of their names alone: something, then one of three
suffixes, then perhaps the one of a compressed file, whatever the case of the two
(`IsServedName`).  The test takes suffixes off the end of a name, and `isAllowed_iff` says
that it finds just these names.  The reader makes a test of its own, of the last suffix
only; for a served name this asks whether the name ends in `.gz`
(`isCompressed_iff_of_isServedName`).

A path text that is relative, holds no zero character and starts at no home means the place
that is left when its two dots have taken names away (`placeOf_of_namesPlace`).  If a file
stands there, it is served exactly if it has a served name and, where this says so, is
compressed, and its text is that of the bytes in it (`fileText_of_namesPlace`).  A name that
two dots take away can still have a path refused (`fileText_refused_for_left_name`).
-/

namespace LogSieve.Resource

open Encoding (Bytes)
open Store (FileTree Path)

/-! ## Names -/

/-- A name made of something, one of three suffixes and perhaps that of a compressed file, but for
case. -/
def IsServedName (name : Text) : Prop :=
  ∃ stem suffix packed, name = stem ++ suffix ++ packed ∧ stem ≠ [] ∧
    suffix.lower ∈ [".log".toList, ".txt".toList, ".jsonl".toList] ∧
    (packed = [] ∨ packed.lower = ".gz".toList)

/-- A name that ends in `.gz`, but for case. -/
def EndsInGzip (name : Text) : Prop := ∃ front ending, name = front ++ ending ∧
  ending.lower = ".gz".toList

theorem mem_allowedSuffixes {suffix : Text} :
    suffix ∈ allowedSuffixes ↔ suffix ∈ [".log".toList, ".txt".toList, ".jsonl".toList] := by
  simp only [allowedSuffixes, List.mem_cons, List.not_mem_nil, or_false]
  tauto

theorem isSuffix_of_mem_allowedSuffixes {suffix : Text} (h : suffix.lower ∈ allowedSuffixes) :
    Path.IsSuffix suffix := by
  have hall : ∀ allowed ∈ allowedSuffixes, Path.IsSuffix allowed := by
    intro allowed hallowed
    refine ⟨allowed.tail, ?_⟩
    revert allowed
    decide
  exact Path.isSuffix_of_lower (hall _ h)

theorem isSuffix_of_lower_eq_gz {ending : Text} (h : ending.lower = ".gz".toList) :
    Path.IsSuffix ending :=
  Path.isSuffix_of_lower (h ▸ ⟨"gz".toList, by decide⟩)

theorem isCompressed_append {stem ending : Text} (hstem : stem ≠ [])
    (h : ending.lower = ".gz".toList) : Path.isCompressed (stem ++ ending) = true := by
  rw [Path.isCompressed, Path.suffix_append hstem (isSuffix_of_lower_eq_gz h), h]
  rfl

/-- The test of a name finds the served ones. -/
theorem isAllowed_iff {name : Text} : isAllowed name = true ↔ IsServedName name := by
  have hstem : ∀ {name : Text}, (Path.suffix name).lower ∈ allowedSuffixes →
      ∃ stem, name = stem ++ Path.suffix name ∧ stem ≠ [] := by
    intro name h
    obtain ⟨stem, hname, hstem, -⟩ :=
      Path.exists_stem_of_suffix_ne_nil (isSuffix_of_mem_allowedSuffixes h).ne_nil
    exact ⟨stem, hname, hstem⟩
  constructor
  · intro h
    unfold isAllowed at h
    by_cases hpacked : Path.isCompressed name = true
    · rw [if_pos hpacked, List.contains_iff_mem] at h
      have hlower : (Path.suffix name).lower = ".gz".toList := by
        simpa [Path.isCompressed, Path.gzipSuffix] using hpacked
      obtain ⟨front, hname, hfront, hending⟩ :=
        Path.exists_stem_of_suffix_ne_nil (isSuffix_of_lower_eq_gz hlower).ne_nil
      have hcut : Path.stem name = front := by
        rw [hname]
        exact Path.stem_append hfront hending
      rw [hcut] at h
      obtain ⟨stem, hfrontName, hstem⟩ := hstem h
      exact ⟨stem, Path.suffix front, Path.suffix name, hfrontName ▸ hname, hstem,
        mem_allowedSuffixes.mp h, .inr hlower⟩
    · rw [if_neg hpacked, List.contains_iff_mem] at h
      obtain ⟨stem, hname, hstem⟩ := hstem h
      exact ⟨stem, Path.suffix name, [], by simpa using hname, hstem, mem_allowedSuffixes.mp h,
        .inl rfl⟩
  · rintro ⟨stem, suffix, packed, rfl, hne, hsuffix, hpacked⟩
    rw [← mem_allowedSuffixes] at hsuffix
    have hend := Path.suffix_append hne (isSuffix_of_mem_allowedSuffixes hsuffix)
    rw [isAllowed]
    rcases hpacked with rfl | hpacked
    · have hplain : Path.isCompressed (stem ++ suffix) = false := by
        rw [Path.isCompressed, hend, beq_eq_false_iff_ne]
        intro heq
        exact absurd (heq ▸ hsuffix) (by decide)
      rw [List.append_nil, hplain, if_neg Bool.false_ne_true, hend]
      exact List.contains_iff_mem.mpr hsuffix
    · have hfront : stem ++ suffix ≠ [] := List.append_ne_nil_of_left_ne_nil hne suffix
      rw [isCompressed_append hfront hpacked, if_pos rfl,
        Path.stem_append hfront (isSuffix_of_lower_eq_gz hpacked), hend]
      exact List.contains_iff_mem.mpr hsuffix

/-- The test of the reader asks whether a served name ends in `.gz`. -/
theorem isCompressed_iff_of_isServedName {name : Text} (h : IsServedName name) :
    Path.isCompressed name = true ↔ EndsInGzip name := by
  constructor
  · intro hpacked
    have hlower : (Path.suffix name).lower = ".gz".toList := by
      simpa [Path.isCompressed, Path.gzipSuffix] using hpacked
    obtain ⟨front, hname, -⟩ :=
      Path.exists_stem_of_suffix_ne_nil (isSuffix_of_lower_eq_gz hlower).ne_nil
    exact ⟨front, Path.suffix name, hname, hlower⟩
  · rintro ⟨front, ending, rfl, hlower⟩
    by_cases hfront : front = []
    · -- the one dot of the ending would be that of a suffix behind the first character
      subst hfront
      obtain ⟨stem, suffix, packed, hname, hstem, hsuffix, -⟩ := h
      obtain ⟨more, rfl, -⟩ := isSuffix_of_mem_allowedSuffixes (mem_allowedSuffixes.mpr hsuffix)
      obtain ⟨rest, rfl, -, hdot⟩ := isSuffix_of_lower_eq_gz hlower
      obtain ⟨c, others, rfl⟩ := List.exists_cons_of_ne_nil hstem
      have hrest : rest = others ++ '.' :: more ++ packed := (List.cons.inj hname).2
      exact absurd (hrest ▸ by simp) hdot
    · exact isCompressed_append hfront hlower

/-! ## Contents -/

/-- The bytes in a compressed file, if it is one up to its end. -/
def unpacked? (bytes : Bytes) : Option Bytes :=
  match Gzip.contents bytes with
  | ⟨blocks, none⟩ => some blocks.flatten
  | ⟨_, some _⟩ => none

/-- Whether a file of this name holds `data`: the bytes in it if the name ends in `.gz`, else its
own bytes. -/
def Holds (name : Text) (bytes data : Bytes) : Prop :=
  (EndsInGzip name ∧ unpacked? bytes = some data) ∨ (¬ EndsInGzip name ∧ bytes = data)

/-- The text of bytes in UTF-8, in which malformed pieces are replaced and all line ends are line
feeds. -/
def textOf (bytes : Bytes) : Text := Encoding.unifyLineEnds (Encoding.textOfBytes .replace bytes)

theorem served?_of_isCompressed {name : Text} (h : Path.isCompressed name = true) (bytes : Bytes) :
    served? name bytes = (unpacked? bytes).map textOf := by
  simp only [served?, Store.Contents.ofFile, if_pos h, unpacked?]
  obtain ⟨blocks, fault⟩ := Gzip.contents bytes
  cases fault with
  | none =>
      simp [Store.Contents.text, textOf,
        Encoding.text_eq_textOfBytes (show Encoding.OnMalformed.replace ≠ .refuse by decide)]
  | some fault => rfl

theorem served?_of_not_isCompressed {name : Text} (h : Path.isCompressed name = false)
    (bytes : Bytes) : served? name bytes = some (textOf bytes) := by
  simp [served?, Store.ofFile_of_not_isCompressed h, Store.Contents.ofBytes, Store.Contents.text,
    textOf, Encoding.text_eq_textOfBytes (show Encoding.OnMalformed.replace ≠ .refuse by decide),
    Store.flatten_blocksOf]

/-- What is served under a served name is the text of what the file holds. -/
theorem served?_eq_some_iff {name : Text} (h : IsServedName name) (bytes : Bytes) (text : Text) :
    served? name bytes = some text ↔ ∃ data, Holds name bytes data ∧ textOf data = text := by
  have hgzip := isCompressed_iff_of_isServedName h
  cases hpacked : Path.isCompressed name with
  | true =>
      have hends : EndsInGzip name := hgzip.mp hpacked
      simp [served?_of_isCompressed hpacked, Holds, hends]
  | false =>
      have hends : ¬ EndsInGzip name := by simp [← hgzip, hpacked]
      simp [served?_of_not_isCompressed hpacked, Holds, hends]

/-! ## Paths -/

/-- A relative path text without a zero character that starts at no home and, when its two dots have
taken names away, leads to these names below the directory. -/
structure NamesPlace (directory : List Text) (path : Text) (names : List Text) : Prop where
  relative : path.head? ≠ some '/'
  no_zero : '\x00' ∉ path
  no_home : (Path.ofText path).names.head?.bind List.head? ≠ some '~'
  collapsed : Path.collapse (directory ++ (Path.ofText path).names) = directory ++ names

theorem isAbsolute_ofText {path : Text} (h : path.head? ≠ some '/') :
    (Path.ofText path).isAbsolute = false := by
  unfold Path.ofText Path.isAbsolute
  split
  · simp at h
  · simp at h
  · simp at h
  · rfl

theorem holdsZero_ofText {path : Text} (h : '\x00' ∉ path) :
    (Path.ofText path).holdsZero = false := by
  rw [Path.holdsZero, List.any_eq_false]
  intro name hname hzero
  have hpiece : name ∈ Text.splitAll '/' path := (List.mem_filter.mp hname).1
  exact h (Text.mem_of_mem_splitAll hpiece (List.contains_iff_mem.mp hzero))

theorem expandHome_of_no_home {homes : Homes} {path : Path}
    (h : path.names.head?.bind List.head? ≠ some '~') : expandHome homes path = .ok path := by
  unfold expandHome
  split
  · rfl
  · split
    · rename_i hnames
      simp [hnames] at h
    · rfl

theorem placeOf_of_namesPlace {directory : List Text} {path : Text} {names : List Text}
    (h : NamesPlace directory path names) (homes : Homes) :
    placeOf homes directory path = .ok (directory ++ names) := by
  rw [placeOf, expandHome_of_no_home h.no_home]
  simp only [bind, Except.bind, holdsZero_ofText h.no_zero, isAbsolute_ofText h.relative,
    Bool.false_eq_true, if_false, h.collapsed]

/-- A file at the place of a path below the directory is served if its name is allowed and it can be
read to its end. -/
theorem fileText_of_placeOf {homes : Homes} {tree : FileTree} {directory : List Text}
    {path : Text} {names : List Text} {bytes : Bytes}
    (hplace : placeOf homes directory path = .ok (directory ++ names))
    (hfile : tree.find [] ⟨['/'], directory ++ names⟩ = .entry (.file bytes))
    {name : Text} (hname : (directory ++ names).getLastD [] = name) :
    (∀ text, fileText homes tree directory path = .ok text ↔
        isAllowed name = true ∧ served? name bytes = some text) ∧
      (isAllowed name = false → fileText homes tree directory path = .error .typeNotAllowed) := by
  have hinside : directory.isPrefixOf (directory ++ names) = true := by simp
  unfold fileText
  rw [hplace]
  simp only [bind, Except.bind, hinside, not_true_eq_false, if_false, hfile, hname]
  cases hallowed : isAllowed name with
  | true =>
      refine ⟨fun text => ?_, fun hrefused => absurd hrefused (by decide)⟩
      rw [if_pos rfl, served?]
      obtain ⟨decoded, fault⟩ := (Store.Contents.ofFile name bytes).text .utf8 .replace
      cases fault with
      | none => simp
      | some fault => simp
  | false => simp

/-- A file at the place of a path is served exactly if it has a served name and, where this says so,
is compressed; its text is that of the bytes in it, and under any other name it is refused for its
type. -/
theorem fileText_of_namesPlace {tree : FileTree} {directory : List Text} {path : Text}
    {names : List Text} (hpath : NamesPlace directory path names) {bytes : Bytes}
    (hfile : tree.find [] ⟨['/'], directory ++ names⟩ = .entry (.file bytes))
    {name : Text} (hname : (directory ++ names).getLastD [] = name) (homes : Homes) :
    (∀ text, fileText homes tree directory path = .ok text ↔
        IsServedName name ∧ ∃ data, Holds name bytes data ∧ textOf data = text) ∧
      (¬ IsServedName name → fileText homes tree directory path = .error .typeNotAllowed) := by
  obtain ⟨hserved, hrefused⟩ := fileText_of_placeOf (placeOf_of_namesPlace hpath homes) hfile hname
  refine ⟨fun text => ?_, fun hnot => hrefused ?_⟩
  · rw [hserved, isAllowed_iff]
    exact and_congr_right fun hin => served?_eq_some_iff hin bytes text
  · rw [← Bool.not_eq_true, isAllowed_iff]
    exact hnot

/-- A directory with two compressed files; the name of the second one is made of suffixes only. -/
def suffixTree : FileTree :=
  ⟨[([['b']], .directory), ([['b'], "a.LOG.Gz".toList], .file (Gzip.pack [0x68, 0x0D, 0xFF])),
    ([['b'], ".log.gz".toList], .file (Gzip.pack [0x68]))]⟩

/-- The first file is served, and the second one is not, since nothing stands before its suffix. -/
theorem fileText_of_namesPlace_suffixTree :
    fileText ⟨"/root".toList, []⟩ suffixTree [['b']] "x/.././/a.LOG.Gz".toList =
        .ok ['h', '\n', '\uFFFD'] ∧
      fileText ⟨"/root".toList, []⟩ suffixTree [['b']] "./.log.gz".toList =
        .error .typeNotAllowed := by
  have hfirst : NamesPlace [['b']] "x/.././/a.LOG.Gz".toList ["a.LOG.Gz".toList] :=
    ⟨by decide, by decide, by decide, by decide⟩
  have hsecond : NamesPlace [['b']] "./.log.gz".toList [".log.gz".toList] :=
    ⟨by decide, by decide, by decide, by decide⟩
  have hserved : IsServedName "a.LOG.Gz".toList :=
    ⟨['a'], ".LOG".toList, ".Gz".toList, rfl, by decide, by decide, .inr (by decide)⟩
  have hholds : Holds "a.LOG.Gz".toList (Gzip.pack [0x68, 0x0D, 0xFF]) [0x68, 0x0D, 0xFF] :=
    .inl ⟨⟨"a.LOG".toList, ".Gz".toList, rfl, by decide⟩, by decide +kernel⟩
  have hrefused : ¬ IsServedName ".log.gz".toList := by
    rw [← isAllowed_iff]
    decide
  have hfile : suffixTree.find [] ⟨['/'], [['b'], ".log.gz".toList]⟩ =
      .entry (.file (Gzip.pack [0x68])) := by
    decide +kernel
  constructor
  · exact ((fileText_of_namesPlace hfirst (by decide +kernel) rfl _).1 _).mpr
      ⟨hserved, _, hholds, by decide +kernel⟩
  · exact (fileText_of_namesPlace hsecond hfile rfl _).2 hrefused

/-- A plain file is at the place that two relative paths lead to and has a served name, but each path
is refused for a name that two dots take away: one for its zero character, and one since behind the
dot that has no meaning it starts at a home. -/
theorem fileText_refused_for_left_name :
    (∀ path ∈ ["x\x00/../a.log".toList, "./~x/../a.log".toList],
        path.head? ≠ some '/' ∧ path.head? ≠ some '~' ∧
          Path.collapse ([['b']] ++ (Path.ofText path).names) = [['b'], "a.log".toList]) ∧
      (smallTree false).find [] ⟨['/'], [['b'], "a.log".toList]⟩ = .entry (.file [0x68, 0x69]) ∧
      IsServedName "a.log".toList ∧ Holds "a.log".toList [0x68, 0x69] [0x68, 0x69] ∧
      fileText ⟨"/root".toList, []⟩ (smallTree false) [['b']] "x\x00/../a.log".toList =
        .error .zeroInPath ∧
      fileText ⟨"/root".toList, []⟩ (smallTree false) [['b']] "./~x/../a.log".toList =
        .error .unknownHome := by
  have hserved : IsServedName "a.log".toList :=
    ⟨['a'], ".log".toList, [], rfl, by decide, by decide, .inl rfl⟩
  have hplain : ¬ EndsInGzip "a.log".toList := by
    rw [← isCompressed_iff_of_isServedName hserved]
    decide
  exact ⟨by decide, by decide +kernel, hserved, .inr ⟨hplain, rfl⟩, by decide +kernel,
    by decide +kernel⟩

end LogSieve.Resource
