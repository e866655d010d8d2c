import LogSieve.CommandLine.Help
import LogSieve.CommandLine.Request
import LogSieve.Query.Badge
import LogSieve.Scan

/-!
# Outcomes

A command line ends with an exit code, with what it prints and with what it
complains about.  A command line that cannot be served, because it is malformed,
because the file is missing or because its bounds make no sense, ends with code
two and a complaint; other faults of the file or of a bound end it without an
outcome.
-/

namespace LogSieve.CommandLine

/-- How a command line ends. -/
structure Outcome where
  code : Nat
  output : Text
  complaint : Text
  deriving DecidableEq

/-- Why a command line ends without an outcome. -/
inductive Breakdown where
  | boundOutOfRange
  | scan (fault : ScanFault)
  deriving DecidableEq

/-- The kind of a fault that leaves a command line without an outcome. -/
def Breakdown.kind : Breakdown → FaultKind
  | boundOutOfRange => .overflow
  | scan fault => fault.kind

/-- What is said of a command line without an outcome, if anything. -/
def Breakdown.message? : Breakdown → Option Text
  | boundOutOfRange => some Calendar.outOfRangeMessage
  | scan fault => fault.message?

namespace Outcome

/-- The outcome of a command line that was served. -/
def served (output : Text) : Outcome := ⟨0, output, []⟩

/-- The outcome of a command line that was not served. -/
def refused (complaint : Text) : Outcome := ⟨2, [], complaint⟩

/-- The outcome of a malformed command line. -/
def misused (fault : RequestFault) : Outcome :=
  refused (usage ++ programName ++ ": error: ".toList ++ fault.message ++ ['\n'])

end Outcome

/-- The line that tells about one term of a query. -/
def badgeLine (number : Nat) (badge : Query.Badge) : Text :=
  Text.ofNat number ++ ": [".toList ++ badge.kind ++ "] ".toList ++ badge.label ++
    "  - ".toList ++ badge.description ++ ['\n']

/-- What is told about a query. -/
def explanation (query : Query) : Text :=
  match query.badges with
  | [] => "(empty query: matches every line)\n".toList
  | badges => (badges.zipIdx.map fun (badge, number) => badgeLine number badge).flatten

/-- The line that shows a record; a bare one lacks the text of the log line. -/
def recordLine (bare : Bool) (record : Record) : Text :=
  (record.lineNumber.map Text.ofInt).getD [] ++ " [".toList ++ record.level.getD ['-'] ++ [']'] ++
    (if bare then [] else ' ' :: record.raw) ++ ['\n']

/-- The lines that show the records that were found, and their number. -/
def recordLines (bare : Bool) (records : List Record) : Text :=
  (records.map (recordLine bare)).flatten ++ "\nFound ".toList ++ Text.ofNat records.length ++
    " matching lines.\n".toList

/-- The outcome of a scan without a result. -/
def ofScanFault (fault : ScanFault) : Except Breakdown Outcome :=
  match fault, fault.message? with
  | .fileMissing _, some said => .ok (.refused (said ++ ['\n']))
  | .limitNotPositive, some said | .boundsNotOrdered, some said
  | .line (.tooManyDigits _), some said =>
    .ok (.refused ("Error: ".toList ++ said ++ ['\n']))
  | _, _ => .error (.scan fault)

/-- The outcome of a request. -/
def Request.run (host : Host) : Request → Except Breakdown Outcome
  | help => .ok (.served helpText)
  | explain query => .ok (.served (explanation (.ofText query)))
  | lines query path limit since till bare =>
    let scan : Scan :=
      { path := path
        query := .ofText query
        window := Window.ofBounds since till
        limit := limit
        encoding := "utf-8".toList
        onMalformed := .replace }
    match scan.run host with
    | .ok records => .ok (.served (recordLines bare records))
    | .error fault => ofScanFault fault

/-- The outcome of a command line. -/
def run (host : Host) (words : List Text) : Except Breakdown Outcome :=
  match Request.ofWords words with
  | .ok request => request.run host
  | .error .boundOutOfRange => .error .boundOutOfRange
  | .error fault => .ok (.misused fault)

end LogSieve.CommandLine
