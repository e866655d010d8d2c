import LogSieve.Record.Embedded

/-!
# The count of braces

The search for the end of an object counts braces and knows no more of the grammar
than strings and backslashes.  A piece of text passes if the count is the same behind
it as before it; pieces that pass can be put one after the other, between quotation
marks and between braces.  The count for a brace stops at the one behind a piece that
passes (`Passes.untilBalanced_eq`).
-/

namespace LogSieve.Json

open Embedded

/-- The count of braces is the same behind a piece as before it, inside a string or outside. -/
def Passes (inString : Bool) (piece : Text) : Prop :=
  ∀ depth rest, untilBalanced (depth + 1) inString false (piece ++ rest) =
    (untilBalanced (depth + 1) inString false rest).map (piece ++ ·)

theorem passes_nil (inString : Bool) : Passes inString [] := by
  intro depth rest
  simp

theorem Passes.append {inString : Bool} {first second : Text} (hfirst : Passes inString first)
    (hsecond : Passes inString second) : Passes inString (first ++ second) := by
  intro depth rest
  rw [List.append_assoc, hfirst, hsecond, Option.map_map]
  simp only [Function.comp_def, List.append_assoc]

theorem Passes.cons {inString : Bool} {c : Char} {piece : Text} (hc : Passes inString [c])
    (hpiece : Passes inString piece) : Passes inString (c :: piece) :=
  hc.append hpiece

/-- Outside of strings, a character other than the four that the count looks at. -/
theorem passes_singleton {c : Char} (h : c ∉ ['\\', '"', '\x7b', '\x7d']) : Passes false [c] := by
  simp only [List.mem_cons, List.not_mem_nil, or_false, not_or] at h
  obtain ⟨hescape, hmark, hopen, hclose⟩ := h
  intro depth rest
  simp [untilBalanced, hescape, hmark, hopen, hclose]

theorem passes_of_forall {piece : Text} (h : ∀ c ∈ piece, c ∉ ['\\', '"', '\x7b', '\x7d']) :
    Passes false piece := by
  induction piece with
  | nil => exact passes_nil false
  | cons c rest ih =>
      exact (passes_singleton (h c List.mem_cons_self)).cons
        (ih fun d hd => h d (List.mem_cons_of_mem c hd))

theorem passes_of_any_eq_false {piece : Text}
    (h : (piece.any fun c => ['\\', '"', '\x7b', '\x7d'].contains c) = false) :
    Passes false piece := by
  refine passes_of_forall fun c hc hmark => ?_
  have hplain := List.any_eq_false.mp h c hc
  exact hplain (List.contains_iff_mem.mpr hmark)

/-- Inside a string, a character that neither ends the string nor escapes another one. -/
theorem passes_inside {c : Char} (hescape : c ≠ '\\') (hmark : c ≠ '"') : Passes true [c] := by
  intro depth rest
  simp [untilBalanced, hescape, hmark]

theorem passes_escape (c : Char) : Passes true ['\\', c] := by
  intro depth rest
  simp [untilBalanced, Function.comp_def]

/-- A string passes when what is between its quotation marks does. -/
theorem Passes.quoted {inner : Text} (h : Passes true inner) :
    Passes false ('"' :: inner ++ ['"']) := by
  intro depth rest
  have hclose : untilBalanced (depth + 1) true false ('"' :: rest) =
      (untilBalanced (depth + 1) false false rest).map ('"' :: ·) := by
    simp [untilBalanced]
  have hopen : ∀ more, untilBalanced (depth + 1) false false ('"' :: more) =
      (untilBalanced (depth + 1) true false more).map ('"' :: ·) := by
    simp [untilBalanced]
  rw [List.append_assoc, List.cons_append, List.singleton_append, hopen, h, hclose]
  simp [Function.comp_def]

/-- An object passes when what is between its braces does. -/
theorem Passes.braced {inner : Text} (h : Passes false inner) :
    Passes false ('\x7b' :: inner ++ ['\x7d']) := by
  intro depth rest
  have hclose : untilBalanced (depth + 2) false false ('\x7d' :: rest) =
      (untilBalanced (depth + 1) false false rest).map ('\x7d' :: ·) := by
    simp [untilBalanced]
  have hopen : ∀ more, untilBalanced (depth + 1) false false ('\x7b' :: more) =
      (untilBalanced (depth + 2) false false more).map ('\x7b' :: ·) := by
    simp [untilBalanced]
  rw [List.append_assoc, List.cons_append, List.singleton_append, hopen, h, hclose]
  simp [Function.comp_def]

/-- The first brace of a text is balanced by the brace behind a piece that passes. -/
theorem Passes.untilBalanced_eq {inner : Text} (h : Passes false inner) (rest : Text) :
    untilBalanced 0 false false ('\x7b' :: inner ++ '\x7d' :: rest) =
      some ('\x7b' :: inner ++ ['\x7d']) := by
  have hopen : ∀ more, untilBalanced 0 false false ('\x7b' :: more) =
      (untilBalanced 1 false false more).map ('\x7b' :: ·) := by
    simp [untilBalanced]
  have hclose : untilBalanced 1 false false ('\x7d' :: rest) = some ['\x7d'] := by
    simp [untilBalanced]
  rw [List.cons_append, hopen, h 0, hclose]
  rfl

end LogSieve.Json
