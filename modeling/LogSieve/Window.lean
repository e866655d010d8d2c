import LogSieve.Record.OfLine

/-!
# Time windows

A window has a first instant, which belongs to it, and a last one, which does
not; either may be missing.  Records without an instant belong to every window.
-/

namespace LogSieve

/-- A span of time, open at the end. -/
structure Window where
  since : Option Calendar.Instant
  till : Option Calendar.Instant
  deriving DecidableEq

/-- Why a text is no bound of a window. -/
inductive BoundFault where
  | notAStamp
  | outOfRange
  deriving DecidableEq

namespace Window

/-- The window that holds everything. -/
def always : Window := ⟨none, none⟩

/-- The bound that a text writes, in universal time if it has no offset. -/
def bound (text : Text) : Except BoundFault Calendar.Instant :=
  match Calendar.Instant.ofText? text with
  | .ok (some instant) => .ok instant
  | .ok none => .error .notAStamp
  | .error _ => .error .outOfRange

/-- Whether the bounds of a window are in order. -/
def isOrdered (window : Window) : Bool :=
  match window.since, window.till with
  | some since, some till => since < till
  | _, _ => true

/-- Whether an instant lies in a window. -/
def contains (window : Window) (instant : Calendar.Instant) : Bool :=
  (window.since.all fun since => since ≤ instant) && window.till.all fun till => instant < till

/-- Whether a record belongs to a window. -/
def admits (window : Window) (record : Record) : Bool := record.timestamp.all window.contains

end Window

/-- The kind of a fault of a bound. -/
def BoundFault.kind : BoundFault → FaultKind
  | notAStamp => .value
  | outOfRange => .overflow

/-- What is said of a text that is no bound, `name` being the bound that it was meant for. -/
def BoundFault.message (name text : Text) : BoundFault → Text
  | notAStamp =>
    name ++ " must be an ISO-8601 datetime (e.g., 2025-12-31T20:00:00Z), got '".toList ++ text ++
      ['\x27']
  | outOfRange => Calendar.outOfRangeMessage

end LogSieve
