import LogSieve.Proofs.Store.Contents
import LogSieve.Scan

/-!
# Scanning plain files

A scan of a plain file in UTF-8 goes through the lines of the bytes of the file, and
nothing but a fault on a line can end it early.
-/

namespace LogSieve

open Encoding (Bytes)
open Store (Path)

/-- A path leads to a file with these bytes, which is not compressed. -/
structure Host.HasPlainFile (host : Host) (path : Text) (bytes : Bytes) : Prop where
  file : Scan.fileAt host (Path.ofText path) = .ok bytes
  plain : Path.isCompressed (Path.ofText path).name = false

/-- A host with a single file, named `a`. -/
def Host.withFile (bytes : Bytes) : Host := ⟨⟨[([['a']], .file bytes)]⟩, [], .inLoop⟩

theorem Host.hasPlainFile_withFile (bytes : Bytes) :
    (Host.withFile bytes).HasPlainFile ['a'] bytes where
  file := rfl
  plain := by decide

/-- The scan of a file in UTF-8 whose malformed bytes are replaced. -/
def Scan.ofFile (path : Text) (query : Query) (window : Window) (limit : Option Int) : Scan :=
  ⟨path, query, .ok window, limit, "utf-8".toList, .replace⟩

theorem Scan.run_plainFile {host : Host} {path : Text} {bytes : Bytes}
    (h : host.HasPlainFile path bytes) (query : Query) (window : Window) {limit : Option Int}
    (hlimit : ∀ number ∈ limit, 0 < number) :
    Scan.run host (.ofFile path query window limit) =
      Scan.recordsOf host.stack window query (limit.map Int.toNat)
        (Encoding.linesOfBytes .replace bytes, none) := by
  have hcodec : Encoding.Codec.ofName? "utf-8".toList = some .utf8 := by decide
  have hpositive : limit.any (· ≤ 0) = false := by
    cases limit with
    | none => rfl
    | some number => simpa using hlimit number rfl
  have hread := Store.lines_ofBytes (show Encoding.OnMalformed.replace ≠ .refuse by decide) bytes
  rw [← Store.ofFile_of_not_isCompressed h.plain] at hread
  unfold Scan.run Scan.ofFile
  simp only [hpositive, h.file, hcodec, Bool.false_eq_true, if_false]
  exact congrArg (Scan.recordsOf host.stack window query (limit.map Int.toNat)) hread

end LogSieve
