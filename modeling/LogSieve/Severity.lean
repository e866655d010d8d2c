import LogSieve.Text.Blank
import LogSieve.Text.Casing
import LogSieve.Text.Quoted

/-!
# Severities

The six severities of a log line, from the least to the most severe.  A query
names them exactly, whatever the case; a log line may also use one of the usual
other names, or merely mention a severity in its text.
-/

namespace LogSieve

/-- How severe a log line is. -/
inductive Severity where
  | trace | debug | info | warn | error | fatal
  deriving DecidableEq

namespace Severity

/-- The severities in increasing order. -/
def all : List Severity := [trace, debug, info, warn, error, fatal]

/-- The place of a severity in the order. -/
def ordinal : Severity → Nat
  | trace => 0
  | debug => 1
  | info => 2
  | warn => 3
  | error => 4
  | fatal => 5

/-- The name of a severity. -/
def name : Severity → Text
  | trace => "trace".toList
  | debug => "debug".toList
  | info => "info".toList
  | warn => "warn".toList
  | error => "error".toList
  | fatal => "fatal".toList

/-- The severity with exactly this name. -/
def ofExactName? (name : Text) : Option Severity := all.find? fun severity => severity.name == name

/-- The severity with this name in any case. -/
def ofName? (name : Text) : Option Severity := ofExactName? name.lower

/-- The severities from `first` to `last`, both included; none if they are the wrong way round. -/
def between (first last : Severity) : List Severity :=
  all.filter fun severity => first.ordinal ≤ severity.ordinal && severity.ordinal ≤ last.ordinal

/-- What is said of a text that is no severity name. -/
def unknownMessage (name : Text) : Text := name.quoted ++ " is not a valid Severity".toList

/-- Other names for severities that log lines use, in upper case. -/
def aliases : List (Text × Severity) :=
  [("TRC", trace), ("DBG", debug), ("INFORMATION", info), ("WARNING", warn), ("ERR", error),
    ("CRITICAL", fatal), ("CRIT", fatal), ("PANIC", fatal), ("EMERG", fatal),
    ("SEVERE", fatal)].map fun (name, severity) => (name.toList, severity)

/-- The severity that a log line means by this text: a name or an alias, in any case and with
blanks around it. -/
def ofLabel? (label : Text) : Option Severity :=
  let name := label.strip.upper
  match aliases.lookup name with
  | some severity => some severity
  | none => ofName? name

/-- The severity guessed from words in a free text; stronger words win. -/
def mentioned? (message : Text) : Option Severity :=
  let text := message.lower
  let holds (word : String) : Bool := Text.occursIn word.toList text
  if holds "error" || holds "fatal" then some error
  else if holds "warn" then some warn
  else if holds "info" then some info
  else if holds "debug" then some debug
  else none

@[simp] theorem ofExactName?_name (severity : Severity) :
    ofExactName? severity.name = some severity := by
  cases severity <;> decide

@[simp] theorem mem_all (severity : Severity) : severity ∈ all := by
  cases severity <;> decide

@[simp] theorem mem_between {first last severity : Severity} :
    severity ∈ between first last ↔
      first.ordinal ≤ severity.ordinal ∧ severity.ordinal ≤ last.ordinal := by
  simp [between]

end Severity

end LogSieve
