import LogSieve.Proofs.Encoding.Lines
import LogSieve.Proofs.Text.Parts

/-!
# Unified line ends part the same lines

A text can be taken apart in two ways: its lines are read one by one, each up to one
of the three ends, or all ends are first made line feeds, and then it is cut at these.
Both go over the text once with the carriage return in mind, so after any part of the
text they have the same lines (`foldl_unify`).  They differ at the very end only: the
cut gives one more piece if the text ends with the end of a line, and this piece is
empty (`splitAll_unifyLineEnds`).
-/

namespace LogSieve.Encoding

namespace LineScan

/-- The text that a scan has seen, with a line feed at the end of each line that has an end. -/
def unified (scan : LineScan) : Text := textOfLines .lineFeed scan.done.reverse ++ scan.held.reverse

/-- No line feed is left in the lines that a scan has seen. -/
structure HasLines (scan : LineScan) : Prop where
  done : ∀ line ∈ scan.done, '\n' ∉ line
  held : '\n' ∉ scan.held

/-- The end of a line is a line feed of the unified text. -/
theorem unified_ended (scan : LineScan) (returned : Bool) :
    unified ⟨scan.held.reverse :: scan.done, [], returned⟩ = scan.unified ++ ['\n'] := by
  simp [unified, textOfLines, LineEnd.text]

theorem HasLines.ended {scan : LineScan} (h : scan.HasLines) (returned : Bool) :
    HasLines ⟨scan.held.reverse :: scan.done, [], returned⟩ where
  done line hline := by
    rcases List.mem_cons.mp hline with rfl | hdone
    · rw [List.mem_reverse]
      exact h.held
    · exact h.done line hdone
  held := List.not_mem_nil

theorem HasLines.step {scan : LineScan} (h : scan.HasLines) (c : Char) :
    (scan.step c).HasLines := by
  unfold LineScan.step
  split
  · split
    · exact ⟨h.done, h.held⟩
    · exact h.ended false
  · rename_i hfeed
    split
    · exact h.ended true
    · exact ⟨h.done, by simpa [eq_comm] using ⟨hfeed, h.held⟩⟩

theorem hasLines_ofText (text : Text) : (ofText text).HasLines := by
  induction text using List.reverseRecOn with
  | nil => exact ⟨fun _ hline => absurd hline List.not_mem_nil, List.not_mem_nil⟩
  | append_singleton text c ih =>
      rw [ofText, List.foldl_append]
      exact ih.step c

/-- The pieces of the unified text are the lines that are done and what is held. -/
theorem HasLines.splitAll_unified {scan : LineScan} (h : scan.HasLines) :
    Text.splitAll '\n' scan.unified = scan.done.reverse ++ [scan.held.reverse] := by
  have hheld : '\n' ∉ scan.held.reverse := by
    rw [List.mem_reverse]
    exact h.held
  have hdone : ∀ line ∈ scan.done.reverse, '\n' ∉ line :=
    fun line hline => h.done line (List.mem_reverse.mp hline)
  unfold unified
  generalize scan.done.reverse = lines at hdone ⊢
  induction lines with
  | nil => exact Text.splitAll_eq_singleton hheld
  | cons line rest ih =>
      have hrest := ih fun other hother => hdone other (List.mem_cons_of_mem line hother)
      have htext : textOfLines .lineFeed (line :: rest) ++ scan.held.reverse =
          line ++ '\n' :: (textOfLines .lineFeed rest ++ scan.held.reverse) := by
        simp [textOfLines, LineEnd.text]
      rw [htext, Text.splitAll_append_cons (hdone line List.mem_cons_self), hrest, List.cons_append]

end LineScan

/-- After any text both ways know the same. -/
theorem foldl_unify (text : Text) :
    text.foldl (fun (unified, returned) c =>
      if c = '\n' then (if returned then unified else '\n' :: unified, false)
      else if c = '\r' then ('\n' :: unified, true)
      else (c :: unified, false)) (([] : Text), false) =
      ((LineScan.ofText text).unified.reverse, (LineScan.ofText text).returned) := by
  induction text using List.reverseRecOn with
  | nil => rfl
  | append_singleton text c ih =>
      have hscan : LineScan.ofText (text ++ [c]) = (LineScan.ofText text).step c := by
        rw [LineScan.ofText, List.foldl_append]
        rfl
      rw [List.foldl_append, ih, hscan]
      generalize LineScan.ofText text = scan
      simp only [List.foldl_cons, List.foldl_nil, LineScan.step]
      by_cases hfeed : c = '\n'
      · cases hreturned : scan.returned with
        | true => simp [hfeed, LineScan.unified]
        | false => simp [hfeed, LineScan.unified_ended]
      · by_cases hreturn : c = '\r'
        · simp [hreturn, LineScan.unified_ended]
        · simp [hfeed, hreturn, LineScan.unified]

/-- The pieces of a text between its unified line ends are its lines; behind the end of the last
line there is an empty piece more. -/
theorem splitAll_unifyLineEnds (text : Text) :
    ∃ last, Text.splitAll '\n' (unifyLineEnds text) = linesOfText true text ++ last ∧
      (last = [] ∨ last = [[]]) := by
  have hpieces := (LineScan.hasLines_ofText text).splitAll_unified
  have hunified : unifyLineEnds text = (LineScan.ofText text).unified := by
    rw [unifyLineEnds, foldl_unify, List.reverse_reverse]
  rw [hunified, hpieces, linesOfText, if_pos rfl]
  generalize LineScan.ofText text = scan
  cases hheld : scan.held with
  | nil => exact ⟨[[]], by simp [LineScan.lines, hheld], .inr rfl⟩
  | cons c more => exact ⟨[], by simp [LineScan.lines, hheld], .inl rfl⟩

end LogSieve.Encoding
