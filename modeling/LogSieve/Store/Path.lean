import LogSieve.Text.Casing

/-!
# Paths

A path is a root, which a relative path lacks, and the names on the way.  Empty
names and single dots have no meaning and are dropped; two dots are kept, since
where they lead depends on the files.
-/

namespace LogSieve.Store

/-- A path as it was written, without meaningless parts. -/
structure Path where
  /-- Nothing, one slash or two slashes. -/
  root : Text
  names : List Text
  deriving DecidableEq

namespace Path

/-- The name that leads to the directory above. -/
def up : Text := ['.', '.']

/-- The path that a text writes.  Two slashes at the start, unless a third one follows, are a root
of their own. -/
def ofText (text : Text) : Path where
  root := match text with
    | '/' :: '/' :: '/' :: _ => ['/']
    | '/' :: '/' :: _ => ['/', '/']
    | '/' :: _ => ['/']
    | _ => []
  names := (Text.splitAll '/' text).filter fun name => !name.isEmpty && name != ['.']

/-- Whether a path starts at a root. -/
def isAbsolute (path : Path) : Bool := !path.root.isEmpty

/-- Whether some name holds a zero character, which no file's name does. -/
def holdsZero (path : Path) : Bool := path.names.any fun name => name.contains '\x00'

/-- The text of a path; the path without any names and root is a dot. -/
def text (path : Path) : Text :=
  match path.root ++ Text.joinWith ['/'] path.names with
  | [] => ['.']
  | text => text

/-- The end of a name from its last dot on; the dot must be neither the first nor the last character
of the name. -/
def suffix (name : Text) : Text :=
  match Text.splitLast '.' name with
  | some (_ :: _, c :: rest) => '.' :: c :: rest
  | _ => []

/-- A name without its suffix. -/
def stem (name : Text) : Text := name.take (name.length - (suffix name).length)

/-- The suffix of a name that marks a compressed file. -/
def gzipSuffix : Text := ".gz".toList

/-- Whether a name is that of a compressed file. -/
def isCompressed (name : Text) : Bool := (suffix name).lower == gzipSuffix

/-- The last name of a path. -/
def name (path : Path) : Text := path.names.getLastD []

/-- The names that are left when every two dots have taken away the name before them. -/
def collapse (names : List Text) : List Text :=
  names.foldl (fun kept name => if name = up then kept.dropLast else kept ++ [name]) []

/-- After the collapse no name leads back. -/
theorem up_not_mem_collapse (names : List Text) : up ∉ collapse names := by
  have general : ∀ kept : List Text, up ∉ kept →
      up ∉ names.foldl (fun kept name => if name = up then kept.dropLast else kept ++ [name])
        kept := by
    induction names with
    | nil => exact fun _ h => h
    | cons name rest ih =>
      intro kept h
      simp only [List.foldl_cons]
      apply ih
      by_cases hname : name = up
      · simp only [hname, if_true]
        exact fun hmem => h ((List.dropLast_sublist kept).mem hmem)
      · simp only [hname, if_false, List.mem_append, List.mem_singleton, not_or]
        exact ⟨h, fun heq => hname heq.symm⟩
  exact general [] (by simp)

end Path

end LogSieve.Store
