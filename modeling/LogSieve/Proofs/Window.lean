import LogSieve.Proofs.Calendar.Spelling
import LogSieve.Window

/-!
# Bounds as they are printed

An instant in the long format is read back as the bound of a window (`bound_iso`).
A window with a single bound admits the records on one side of it: those at the bound
if it is the first instant (`admits_since`), and not if it is the last (`admits_till`).
-/

namespace LogSieve

open Calendar (Instant)

namespace Window

/-- An instant is read back as the bound that it was printed for. -/
theorem bound_iso (instant : Instant) : bound instant.iso = .ok instant := by
  rw [bound, Instant.ofText?_iso]

theorem admits_since {since instant : Instant} {record : Record}
    (h : record.timestamp = some instant) :
    (Window.mk (some since) none).admits record = true ↔ since ≤ instant := by
  simp [admits, contains, h]

theorem admits_till {till instant : Instant} {record : Record}
    (h : record.timestamp = some instant) :
    (Window.mk none (some till)).admits record = true ↔ instant < till := by
  simp [admits, contains, h]

end Window

end LogSieve
