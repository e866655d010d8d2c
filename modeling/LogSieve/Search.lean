import LogSieve.Scan

/-!
# Searching log files

A search is a scan whose limit has a default and an upper bound and whose window
is given as texts.  Bounds are in universal time unless they say otherwise, and
an empty bound is no bound.
-/

namespace LogSieve

/-- Why a search has no result. -/
inductive SearchFault where
  /-- A text is no bound of a window; `name` is the bound that it was meant for. -/
  | bound (name text : Text) (fault : BoundFault)
  | scan (fault : ScanFault)
  deriving DecidableEq

/-- What is searched for, and where. -/
structure Search where
  path : Text
  query : Text
  since : Option Text
  till : Option Text
  limit : Option Int
  /-- Whether the answer shows the lines themselves. -/
  includeRaw : Bool

namespace Search

/-- The number of records that a search finds at most unless it says otherwise. -/
def defaultLimit : Int := 200

/-- The number of records that a search finds at most, whatever it says. -/
def hardLimit : Int := 5000

/-- The instant of an optional bound. -/
def boundOf (name : Text) (text : Option Text) :
    Except SearchFault (Option Calendar.Instant) :=
  match text with
  | none | some [] => .ok none
  | some text =>
    match Window.bound text with
    | .ok instant => .ok (some instant)
    | .error fault => .error (.bound name text fault)

/-- The records that a search finds, given the upper bound of its limit. -/
def run (host : Host) (hardLimit : Int) (search : Search) : Except SearchFault (List Record) :=
  let limit := search.limit.getD defaultLimit
  if limit ≤ 0 then .error (.scan .limitNotPositive)
  else do
    let since ← boundOf "since".toList search.since
    let till ← boundOf "until".toList search.till
    Except.mapError .scan (Scan.run host
      { path := search.path
        query := .ofText search.query
        window := Window.ofBounds since till
        limit := some (min limit hardLimit)
        encoding := "utf-8".toList
        onMalformed := .replace })

end Search

/-- The kind of a fault of a search. -/
def SearchFault.kind : SearchFault → FaultKind
  | bound _ _ fault => fault.kind
  | scan fault => fault.kind

/-- What is said of a search without a result, if anything. -/
def SearchFault.message? : SearchFault → Option Text
  | bound name text fault => some (fault.message name text)
  | scan fault => fault.message?

end LogSieve
