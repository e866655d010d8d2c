import LogSieve.Text.Basic

/-!
# Help

What the command line tells about itself, for a terminal of eighty columns.
-/

namespace LogSieve.CommandLine

/-- The name of the program. -/
def programName : Text := "log-query".toList

/-- How the program is called. -/
def usage : Text :=
  ("usage: log-query [-h] [--explain] [--max MAX_RESULTS] [--since SINCE]\n" ++
    "                 [--until UNTIL] [--no-raw]\n" ++
    "                 query [log_path]\n").toList

/-- How the program is called, and what its arguments mean. -/
def helpText : Text :=
  usage ++
    ("\n" ++
      "Filter a log file with the log query language.\n" ++
      "\n" ++
      "positional arguments:\n" ++
      "  query              e.g. 'service:nginx level:warn..error -\"health check\"'\n" ++
      "  log_path\n" ++
      "\n" ++
      "options:\n" ++
      "  -h, --help         show this help message and exit\n" ++
      "  --explain          Print the token breakdown and exit\n" ++
      "  --max MAX_RESULTS  Max results to return (default: no cap)\n" ++
      "  --since SINCE      ISO8601 start time (assumes UTC if tz missing)\n" ++
      "  --until UNTIL      ISO8601 end time (assumes UTC if tz missing)\n" ++
      "  --no-raw           Print line numbers and levels only\n").toList

end LogSieve.CommandLine
