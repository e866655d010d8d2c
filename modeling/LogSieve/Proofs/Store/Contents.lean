import LogSieve.Proofs.Encoding.LineFeed
import LogSieve.Store.FileTree

/-!
# The contents of plain files

Cutting the bytes of a file into blocks loses none of them (`flatten_blocksOf`), so
the lines of a plain file in UTF-8 are those of its bytes (`lines_ofBytes`).  If the
file was written from lines, these are its lines.
-/

namespace LogSieve.Store

open Encoding (Bytes OnMalformed LineEnd IsLine textOfLines)

/-- The bytes that a cutting has seen, in order. -/
def Cutting.seen (cutting : Cutting) : Bytes := cutting.full.reverse.flatten ++ cutting.last.reverse

theorem Cutting.seen_step (cutting : Cutting) (byte : UInt8) :
    (cutting.step byte).seen = cutting.seen ++ [byte] := by
  unfold Cutting.step
  split
  · simp [Cutting.seen]
  · simp [Cutting.seen]

theorem Cutting.seen_foldl_step (bytes : Bytes) (cutting : Cutting) :
    (bytes.foldl Cutting.step cutting).seen = cutting.seen ++ bytes := by
  induction bytes generalizing cutting with
  | nil => simp
  | cons byte rest ih =>
      rw [List.foldl_cons, ih, Cutting.seen_step, List.append_assoc, List.singleton_append]

/-- The blocks of a file are its bytes. -/
theorem flatten_blocksOf (bytes : Bytes) : (blocksOf bytes).flatten = bytes := by
  have hseen := Cutting.seen_foldl_step bytes ⟨[], [], blockSize⟩
  unfold blocksOf
  generalize bytes.foldl Cutting.step ⟨[], [], blockSize⟩ = cutting at hseen ⊢
  obtain rfl : cutting.seen = bytes := hseen
  simp only
  split
  · rename_i hlast
    simp [Cutting.seen, List.isEmpty_iff.mp hlast]
  · simp [Cutting.seen]

theorem ofFile_of_not_isCompressed {name : Text} (h : Path.isCompressed name = false)
    (bytes : Bytes) : Contents.ofFile name bytes = .ofBytes bytes := by
  simp [Contents.ofFile, h]

/-- A plain file has the lines of its bytes, and nothing ends them early. -/
theorem lines_ofBytes {onMalformed : OnMalformed} (h : onMalformed ≠ .refuse) (bytes : Bytes) :
    (Contents.ofBytes bytes).lines .utf8 onMalformed =
      (Encoding.linesOfBytes onMalformed bytes, none) := by
  have htext := Encoding.text_eq_textOfBytes h (blocksOf bytes)
  rw [flatten_blocksOf] at htext
  simp [Contents.lines, Contents.text, Contents.ofBytes, htext, Encoding.linesOfBytes]

/-- The bytes of a plain file in UTF-8 with these lines. -/
def bytesOfLines (lineEnd : LineEnd) (lines : List Text) : Bytes :=
  (textOfLines lineEnd lines).flatMap Encoding.utf8Bytes

theorem linesOfBytes_bytesOfLines (onMalformed : OnMalformed) {lines : List Text}
    (hlines : ∀ line ∈ lines, IsLine line) (lineEnd : LineEnd) :
    Encoding.linesOfBytes onMalformed (bytesOfLines lineEnd lines) = lines := by
  rw [Encoding.linesOfBytes, bytesOfLines, Encoding.textOfBytes_flatMap,
    Encoding.linesOfText_textOfLines hlines]

end LogSieve.Store
