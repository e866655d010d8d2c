/-!
# Runs of case pairs

Case mappings of single characters come in runs: from `first` to `last`, every
character or every second one is moved by the same distance.
-/

namespace LogSieve.Text

/-- The first and last code point of a run, the step between its members and the distance
from a member to its image. -/
abbrev CaseRun := Nat × Nat × Nat × Int

/-- The image of a code point under an increasing list of runs; itself if no run holds it. -/
def mapCode (code : Nat) : List CaseRun → Nat
  | [] => code
  | (first, last, step, shift) :: rest =>
    if code < first then code
    else if code ≤ last ∧ (code - first) % step = 0 then (Int.ofNat code + shift).toNat
    else mapCode code rest

end LogSieve.Text
