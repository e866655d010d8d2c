/-!
# What the callers leave of the stack

Arrays and objects that lie in each other are read by calls in each other, and so
are the groups of a pattern.  How deep they may lie is not up to the reader alone:
the callers have used a part of the stack before.  A line that is read directly
leaves more room than one that is read in an event loop.
-/

namespace LogSieve

/-- How deep what is read may lie in itself.  A caller that leaves no room for a single object could
not have called the reader either. -/
structure Stack where
  /-- How deep arrays and objects may lie in each other. -/
  values : Nat
  /-- How deep the groups of a pattern may lie in each other. -/
  groups : Nat
  values_pos : 0 < values := by decide

namespace Stack

/-- What a single line is read with, of a stack of a thousand calls. -/
def direct : Stack := { values := 990, groups := 490 }

/-- What the lines of a file are read with: the event loop is on the stack as well. -/
def inLoop : Stack := { values := 977, groups := 484 }

end Stack

end LogSieve
