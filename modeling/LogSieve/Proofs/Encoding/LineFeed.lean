import LogSieve.Proofs.Encoding.Lines
import LogSieve.Proofs.Encoding.Utf8

/-!
# Line feeds part a file

What follows a line feed is read as if it stood alone, whatever the bytes before it
are: `linesOfBytes_append` says so of the lines of a file.  Two seams have to be
watched.

* **Bytes.**  A character may be unfinished where the line feed comes.  No byte
  below 128 continues a character, so the line feed ends it just as the end of the
  file would (`step_lineFeed`), and is then a character of its own.
* **Lines.**  A line feed right behind a carriage return ends no line.  Then nothing
  is held (`IsSettled`), so in either case the scan of the lines stands where it
  stood at the start, but for the lines that it has (`step_feed`).
-/

namespace LogSieve.Encoding

/-- The byte of a line feed. -/
def feedByte : UInt8 := 0x0A

/-! ## Bytes -/

namespace Utf8State

/-- No byte below 128 is the next one of an unfinished character. -/
def RefusesAscii : Utf8State → Prop
  | between => True
  | inside _ low _ _ => 0x80 ≤ low

theorem refusesAscii_first (byte : Nat) : (first byte).1.RefusesAscii := by
  unfold first
  split
  · trivial
  · split
    · trivial
    · split
      · exact Nat.le_refl 0x80
      · split
        · show 0x80 ≤ if byte = 0xE0 then 0xA0 else 0x80
          split <;> omega
        · split
          · show 0x80 ≤ if byte = 0xF0 then 0x90 else 0x80
            split <;> omega
          · trivial

theorem refusesAscii_step (state : Utf8State) (byte : Nat) :
    (state.step byte).1.RefusesAscii := by
  cases state with
  | between => exact refusesAscii_first byte
  | inside owed low high value =>
      by_cases hrange : low ≤ byte ∧ byte ≤ high
      · by_cases howed : owed ≤ 1
        · simp [step, hrange, howed, RefusesAscii]
        · simp [step, hrange, howed, RefusesAscii]
      · rw [step_out_of_range hrange]
        exact refusesAscii_first byte

/-- A line feed decides what the end of the bytes would decide, and is a character. -/
theorem step_lineFeed {state : Utf8State} (h : state.RefusesAscii) :
    state.step feedByte.toNat = (between, state.finish ++ [some '\n']) := by
  cases state with
  | between => rfl
  | inside owed low high value =>
      have hlow : 0x80 ≤ low := h
      have hfeed : feedByte.toNat = 0x0A := rfl
      rw [step_out_of_range (by omega)]
      rfl

end Utf8State

theorem decodedFrom_append_lineFeed {state : Utf8State} (h : state.RefusesAscii)
    (bytes more : Bytes) :
    decodedFrom state (bytes ++ feedByte :: more) =
      decodedFrom state bytes ++ some '\n' :: decodedFrom .between more := by
  induction bytes generalizing state with
  | nil =>
      simp only [List.nil_append, decodedFrom, Utf8State.step_lineFeed h, List.append_assoc,
        List.singleton_append]
  | cons byte rest ih =>
      simp only [List.cons_append, decodedFrom, ih (Utf8State.refusesAscii_step _ _),
        List.append_assoc]

/-- A line feed among bytes is a line feed of their text, and the bytes behind it have a text of
their own. -/
theorem textOfBytes_append_lineFeed (onMalformed : OnMalformed) (bytes more : Bytes) :
    textOfBytes onMalformed (bytes ++ feedByte :: more) =
      textOfBytes onMalformed bytes ++ '\n' :: textOfBytes onMalformed more := by
  have hstart : Utf8State.RefusesAscii .between := trivial
  rw [textOfBytes, decodedFrom_append_lineFeed hstart, List.flatMap_append, List.flatMap_cons]
  rfl

/-! ## Lines -/

namespace LineScan

/-- Behind a carriage return nothing is held. -/
def IsSettled (scan : LineScan) : Prop := scan.returned = true → scan.held = []

theorem isSettled_step (scan : LineScan) (c : Char) : IsSettled (step scan c) := by
  unfold step
  split
  · split
    · intro hreturned
      cases hreturned
    · exact fun _ => rfl
  · split
    · exact fun _ => rfl
    · intro hreturned
      cases hreturned

theorem isSettled_foldl_step {scan : LineScan} (h : IsSettled scan) (text : Text) :
    IsSettled (text.foldl step scan) := by
  induction text generalizing scan with
  | nil => exact h
  | cons c rest ih => exact ih (isSettled_step scan c)

/-- The scan with other lines before its own. -/
def behind (earlier : List Text) (scan : LineScan) : LineScan :=
  { scan with done := scan.done ++ earlier }

/-- A line feed leads back to the start, with some lines done. -/
theorem step_feed {scan : LineScan} (h : IsSettled scan) :
    ∃ earlier, step scan '\n' = behind earlier start := by
  unfold step
  rw [if_pos rfl]
  by_cases hreturned : scan.returned = true
  · refine ⟨scan.done, ?_⟩
    rw [if_pos hreturned, h hreturned]
    rfl
  · refine ⟨scan.held.reverse :: scan.done, ?_⟩
    rw [if_neg hreturned]
    rfl

theorem step_behind (earlier : List Text) (scan : LineScan) (c : Char) :
    step (behind earlier scan) c = behind earlier (step scan c) := by
  by_cases hfeed : c = '\n'
  · cases hreturned : scan.returned <;> simp [step, behind, hfeed, hreturned]
  · by_cases hreturn : c = '\r' <;> simp [step, behind, hfeed, hreturn]

theorem foldl_step_behind (earlier : List Text) (scan : LineScan) (text : Text) :
    text.foldl step (behind earlier scan) = behind earlier (text.foldl step scan) := by
  induction text generalizing scan with
  | nil => rfl
  | cons c rest ih => rw [List.foldl_cons, step_behind, ih, List.foldl_cons]

theorem lines_behind (earlier : List Text) (scan : LineScan) :
    (behind earlier scan).lines = earlier.reverse ++ scan.lines := by
  cases hheld : scan.held <;> simp [lines, behind, hheld]

end LineScan

/-- A line feed parts the lines of a text. -/
theorem linesOfText_append_lineFeed (text more : Text) :
    linesOfText true (text ++ '\n' :: more) =
      linesOfText true (text ++ ['\n']) ++ linesOfText true more := by
  have hsettled : LineScan.IsSettled (text.foldl LineScan.step .start) :=
    LineScan.isSettled_foldl_step (fun _ => rfl) text
  obtain ⟨earlier, hfeed⟩ := LineScan.step_feed hsettled
  have hlines : ∀ after : Text, linesOfText true (text ++ '\n' :: after) =
      earlier.reverse ++ linesOfText true after := by
    intro after
    have hscan : LineScan.ofText (text ++ '\n' :: after) =
        .behind earlier (LineScan.ofText after) := by
      rw [LineScan.ofText, List.foldl_append, List.foldl_cons, hfeed, LineScan.foldl_step_behind]
      rfl
    simp only [linesOfText, hscan, LineScan.lines_behind, if_true]
  rw [hlines more, hlines []]
  simp [linesOfText, LineScan.ofText, LineScan.start, LineScan.lines]

/-! ## Files -/

/-- The lines of a plain file with these bytes. -/
def linesOfBytes (onMalformed : OnMalformed) (bytes : Bytes) : List Text :=
  linesOfText true (textOfBytes onMalformed bytes)

/-- Bytes that are appended to nothing or behind a line feed have the lines that they have alone, and
the lines before them stay what they were. -/
theorem linesOfBytes_append {first : Bytes} (h : first = [] ∨ first.getLast? = some feedByte)
    (onMalformed : OnMalformed) (second : Bytes) :
    linesOfBytes onMalformed (first ++ second) =
      linesOfBytes onMalformed first ++ linesOfBytes onMalformed second := by
  rcases h with rfl | hlast
  · rfl
  · obtain ⟨front, rfl⟩ := List.getLast?_eq_some_iff.mp hlast
    have htext := textOfBytes_append_lineFeed onMalformed front
    rw [linesOfBytes, List.append_assoc, List.singleton_append, htext second,
      linesOfText_append_lineFeed, linesOfBytes, htext []]
    rfl

end LogSieve.Encoding
