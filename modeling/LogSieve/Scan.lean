import LogSieve.Query.Matching
import LogSieve.Store.FileTree
import LogSieve.Window

/-!
# Scanning files

A scan reads a log file line by line and collects the records that lie in a
window and satisfy a query.  Lines are counted from one; blank lines count but
make no record.  A scan with a limit stops at the last record that it may
collect, so that no fault behind it is met.
-/

namespace LogSieve

/-- Why a scan has no result. -/
inductive ScanFault where
  | limitNotPositive
  | fileMissing (path : Text)
  | nameTooLong (path : Text)
  /-- A bound of the window falls out of the calendar. -/
  | boundOutOfRange
  | boundsNotOrdered
  | unknownEncoding
  | line (fault : LineFault)
  | reading (fault : Store.ReadFault)
  deriving DecidableEq

/-- Which lines of which file a scan is about. -/
structure Scan where
  path : Text
  query : Query
  window : Except ScanFault Window
  limit : Option Int
  encoding : Text
  onMalformed : Encoding.OnMalformed

/-- Where a scan takes place: the files, the directory that relative paths start from, and the
stack that is left for reading a line. -/
structure Host where
  tree : Store.FileTree
  directory : List Text
  stack : Stack

/-- The window between two bounds, which must be in order. -/
def Window.ofBounds (since till : Option Calendar.Instant) : Except ScanFault Window :=
  let window : Window := ⟨since, till⟩
  if window.isOrdered then .ok window else .error .boundsNotOrdered

/-- The window between two stamps; one without an offset is on a clock with the given one. -/
def Window.ofStamps (defaultOffset : Int) (since till : Option Calendar.Stamp) :
    Except ScanFault Window := do
  let instant (stamp : Option Calendar.Stamp) :
      Except ScanFault (Option Calendar.Instant) :=
    match stamp with
    | none => .ok none
    | some stamp =>
      match stamp.toInstant? defaultOffset with
      | some instant => .ok (some instant)
      | none => .error .boundOutOfRange
  ofBounds (← instant since) (← instant till)

namespace Scan

/-- The record of a line, if the line is not blank and its record is asked for. -/
def recordOf? (stack : Stack) (window : Window) (query : Query) (number : Nat) (line : Text) :
    Except LineFault (Option Record) :=
  if Text.allBlank line then .ok none
  else
    (Record.ofLine stack line (some (Int.ofNat number)) none).map fun record =>
      if window.admits record && query.holds stack record then some record else none

/-- The records of the lines from the given number on, and whether there may be more of them beyond
`room`.  `found` are those before, the latest first. -/
def collect (read : Nat → Text → Except LineFault (Option Record)) (room : Option Nat)
    (found : List Record) (number : Nat) : List Text → Except LineFault (List Record × Bool)
  | [] => .ok (found.reverse, false)
  | line :: rest =>
    match read number line with
    | .error fault => .error fault
    | .ok none => collect read room found (number + 1) rest
    | .ok (some record) =>
      if room = some 1 then .ok ((record :: found).reverse, true)
      else collect read (room.map (· - 1)) (record :: found) (number + 1) rest

/-- The records of the lines of a file; a fault that ends the lines counts unless the limit is
reached before. -/
def recordsOf (stack : Stack) (window : Window) (query : Query) (limit : Option Nat)
    (lines : List Text × Option Store.ReadFault) : Except ScanFault (List Record) :=
  match collect (recordOf? stack window query) limit [] 1 lines.1, lines.2 with
  | .error fault, _ => .error (.line fault)
  | .ok (records, true), _ | .ok (records, false), none => .ok records
  | .ok (_, false), some fault => .error (.reading fault)

/-- The file that a path leads to. -/
def fileAt (host : Host) (path : Store.Path) : Except ScanFault Encoding.Bytes :=
  match host.tree.find host.directory path with
  | .entry (.file bytes) => .ok bytes
  | .nameTooLong => .error (.nameTooLong path.text)
  | _ => .error (.fileMissing path.text)

/-- The records that a scan finds. -/
def run (host : Host) (scan : Scan) : Except ScanFault (List Record) :=
  if scan.limit.any (· ≤ 0) then .error .limitNotPositive
  else do
    let path := Store.Path.ofText scan.path
    let bytes ← fileAt host path
    let window ← scan.window
    match Encoding.Codec.ofName? scan.encoding with
    | none => .error .unknownEncoding
    | some codec =>
      let contents := Store.Contents.ofFile path.name bytes
      recordsOf host.stack window scan.query (scan.limit.map Int.toNat)
        (contents.lines codec scan.onMalformed)

end Scan

/-- The kind of a fault of a scan. -/
def ScanFault.kind : ScanFault → FaultKind
  | limitNotPositive | boundsNotOrdered => .value
  | fileMissing _ => .fileNotFound
  | nameTooLong _ => .system
  | boundOutOfRange => .overflow
  | unknownEncoding => .lookup
  | line fault => fault.kind
  | reading fault => fault.kind

/-- What is said of a scan without a result, if anything. -/
def ScanFault.message? : ScanFault → Option Text
  | limitNotPositive => some "limit must be > 0".toList
  | fileMissing path => some ("Log file not found: ".toList ++ path)
  | nameTooLong path => some ("[Errno 36] File name too long: ".toList ++ path.quoted)
  | boundOutOfRange => some Calendar.outOfRangeMessage
  | boundsNotOrdered => some "since must be < until".toList
  | unknownEncoding => none
  | line fault => fault.message?
  | reading fault => fault.message?

end LogSieve
