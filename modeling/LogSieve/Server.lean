import LogSieve.Text.Casing

/-!
# The server

Apart from the command line, the program runs as a server that speaks over its
standard streams.  What it logs about itself goes to standard error, from a level
on that the environment may name.
-/

namespace LogSieve.Server

/-- Where log messages go. -/
inductive Sink where
  | standardError
  | standardOutput
  deriving DecidableEq

/-- How the server logs about itself. -/
structure Logging where
  /-- Messages below this rank are left out. -/
  rank : Nat
  /-- The layout of a message. -/
  layout : Text
  sink : Sink
  deriving DecidableEq

/-- How clients talk to the server. -/
inductive Transport where
  | standardStreams
  deriving DecidableEq

/-- The name of a transport. -/
def Transport.name : Transport → Text
  | standardStreams => "stdio".toList

/-- What the server sets up when it starts. -/
structure Setup where
  logging : Logging
  transport : Transport
  deriving DecidableEq

/-- The ranks of levels, by name. -/
def ranks : List (Text × Nat) :=
  [("NOTSET".toList, 0), ("DEBUG".toList, 10), ("INFO".toList, 20), ("WARN".toList, 30),
    ("WARNING".toList, 30), ("ERROR".toList, 40), ("CRITICAL".toList, 50), ("FATAL".toList, 50)]

/-- The rank of messages that are worth noting though nothing is wrong. -/
def defaultRank : Nat := 20

/-- The rank of a level, whatever the case of its name; a name without meaning counts as none. -/
def rankOf (name : Option Text) : Nat :=
  (name.bind fun name => ranks.lookup (Text.upper name)).getD defaultRank

/-- What the server sets up, given the name of a level in the environment. -/
def setup (levelName : Option Text) : Setup where
  logging :=
    { rank := rankOf levelName
      layout := "%(asctime)s %(levelname)s %(name)s: %(message)s".toList
      sink := .standardError }
  transport := .standardStreams

end LogSieve.Server
