import LogSieve.Encoding.Lines

/-!
# Lines are read back from the text that they make

Lines are put one behind the other, each with the same end behind it, and read
again (`linesOfText_textOfLines`).  What has to be watched is the carriage return that
the scan has in mind: a line feed right behind it ends no line.  That is right
where lines end in both, and no harm where they end in a carriage return, since no
line feed comes then.
-/

namespace LogSieve.Encoding

/-- The ways to end a line. -/
inductive LineEnd where
  | lineFeed
  | carriageReturn
  | both
  deriving DecidableEq

/-- The characters that end a line. -/
def LineEnd.text : LineEnd → Text
  | lineFeed => ['\n']
  | carriageReturn => ['\r']
  | both => ['\r', '\n']

/-- The lines of a file as one text, with the same end behind each of them. -/
def textOfLines (lineEnd : LineEnd) (lines : List Text) : Text :=
  lines.flatMap fun line => line ++ lineEnd.text

/-- No line ends inside the text. -/
structure IsLine (text : Text) : Prop where
  noFeed : '\n' ∉ text
  noReturn : '\r' ∉ text

namespace LineScan

/-- A character that ends no line is held. -/
theorem step_of_ne {c : Char} (hfeed : c ≠ '\n') (hreturn : c ≠ '\r') (scan : LineScan) :
    step scan c = ⟨scan.done, c :: scan.held, false⟩ := by
  simp [step, hfeed, hreturn]

/-- What ends no line is held as a whole. -/
theorem foldl_step_of_isLine {line : Text} (h : IsLine line) (scan : LineScan) :
    line.foldl step scan =
      ⟨scan.done, line.reverse ++ scan.held, scan.returned && line.isEmpty⟩ := by
  induction line generalizing scan with
  | nil => simp
  | cons c rest ih =>
      obtain ⟨hfeed, hreturn⟩ := h
      simp only [List.mem_cons, not_or] at hfeed hreturn
      rw [List.foldl_cons, step_of_ne (Ne.symm hfeed.1) (Ne.symm hreturn.1),
        ih ⟨hfeed.2, hreturn.2⟩]
      simp

/-- A line with its end is one line more; what the scan has in mind of the line before does no harm
unless a line feed alone could be taken for its second half. -/
theorem foldl_step_ended {line : Text} (h : IsLine line) (lineEnd : LineEnd) (done : List Text)
    {returned : Bool} (hreturned : returned = true → lineEnd = .carriageReturn) :
    (line ++ lineEnd.text).foldl step ⟨done, [], returned⟩ =
      ⟨line :: done, [], lineEnd == .carriageReturn⟩ := by
  rw [List.foldl_append, foldl_step_of_isLine h]
  cases lineEnd with
  | lineFeed =>
      -- a blank line behind a carriage return would be lost here
      have hnot : returned = false := by
        cases returned with
        | false => rfl
        | true => cases hreturned rfl
      simp [LineEnd.text, step, hnot]
  | carriageReturn => simp [LineEnd.text, step]
  | both => simp [LineEnd.text, step]

theorem foldl_step_textOfLines {lines : List Text} (h : ∀ line ∈ lines, IsLine line)
    (lineEnd : LineEnd) (done : List Text) {returned : Bool}
    (hreturned : returned = true → lineEnd = .carriageReturn) :
    ∃ last, (textOfLines lineEnd lines).foldl step ⟨done, [], returned⟩ =
      ⟨lines.reverse ++ done, [], last⟩ := by
  induction lines generalizing done returned with
  | nil => exact ⟨returned, rfl⟩
  | cons line rest ih =>
      have hline : IsLine line := h line (by simp)
      have hrest : ∀ other ∈ rest, IsLine other := fun other hother => h other (by simp [hother])
      obtain ⟨last, hlast⟩ := ih hrest (line :: done)
        (show (lineEnd == .carriageReturn) = true → lineEnd = .carriageReturn from beq_iff_eq.mp)
      refine ⟨last, ?_⟩
      rw [textOfLines, List.flatMap_cons, List.foldl_append, foldl_step_ended hline _ _ hreturned,
        ← textOfLines, hlast, List.reverse_cons, List.append_assoc, List.singleton_append]

end LineScan

/-- The lines of the text that lines make are these lines. -/
theorem linesOfText_textOfLines {lines : List Text} (h : ∀ line ∈ lines, IsLine line)
    (lineEnd : LineEnd) : linesOfText true (textOfLines lineEnd lines) = lines := by
  obtain ⟨last, hlast⟩ := LineScan.foldl_step_textOfLines h lineEnd [] Bool.false_ne_true.elim
  have hscan : LineScan.ofText (textOfLines lineEnd lines) = ⟨lines.reverse, [], last⟩ := by
    rw [LineScan.ofText, LineScan.start, hlast, List.append_nil]
  simp [linesOfText, hscan, LineScan.lines]

end LogSieve.Encoding
