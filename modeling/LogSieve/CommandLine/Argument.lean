import LogSieve.Text.Digit
import LogSieve.Text.Basic

/-!
# Arguments

An argument of a command line is an option or a plain word.  A word that starts
with a dash is an option, known or not, unless it is a negative number or has a
space in it.  Two dashes of their own end the options: every word after them is
plain.

A long option may be shortened as long as it stays the only one with that start,
and a value may be attached to it with an equals sign.
-/

namespace LogSieve.CommandLine

/-- The options. -/
inductive Switch where
  | help
  | explain
  | limit
  | since
  | till
  | bare
  deriving DecidableEq

namespace Switch

/-- All options, in the order in which they are listed. -/
def all : List Switch := [help, explain, limit, since, till, bare]

/-- The option as it is written in full. -/
def name : Switch → Text
  | help => "--help".toList
  | explain => "--explain".toList
  | limit => "--max".toList
  | since => "--since".toList
  | till => "--until".toList
  | bare => "--no-raw".toList

/-- The option with all its names. -/
def names : Switch → Text
  | help => "-h/--help".toList
  | switch => switch.name

/-- The options whose names start in this way. -/
def startingWith (start : Text) : List Switch :=
  all.filter fun switch => start.isPrefixOf switch.name

end Switch

/-- What one word of a command line is. -/
inductive Argument where
  | plain (word : Text)
  /-- The two dashes that end the options. -/
  | dashes
  /-- An option, with the value that is attached to it. -/
  | option (switch : Switch) (value : Option Text)
  /-- An option that does not exist. -/
  | unknown (word : Text)
  deriving DecidableEq

/-- A word that starts like several options. -/
structure Ambiguity where
  word : Text
  switches : List Switch
  deriving DecidableEq

/-- The word that ends the options. -/
def dashesWord : Text := ['-', '-']

/-- Whether a text is a number of digits, at least one. -/
def isDigits (text : Text) : Bool := !text.isEmpty && text.all Text.isDigit

/-- Whether the text after a dash makes a negative number: digits, perhaps with a point before the
last ones.  A line feed may follow. -/
def isMagnitude (text : Text) : Bool :=
  let text := if text.getLast? = some '\n' then text.dropLast else text
  isDigits text ||
    match Text.splitFirst '.' text with
    | some (whole, fraction) => whole.all Text.isDigit && isDigits fraction
    | none => false

/-- The value that is attached to the short form of the option for help.  The letter may be
repeated, and an equals sign or a dash starts a value; other letters after it are without
meaning. -/
def valueAfterLetter : Text → Option Text
  | '=' :: value => some value
  | '-' :: rest => some ('-' :: rest)
  | 'h' :: rest => valueAfterLetter rest
  | _ => none

namespace Argument

/-- A word with a dash in front that is no option. -/
def ofDashed (word : Text) : Argument :=
  if isMagnitude (word.drop 1) || word.contains ' ' then .plain word else .unknown word

/-- What a word is that stands before the two dashes. -/
def ofWord (word : Text) : Except Ambiguity Argument :=
  match word with
  | '-' :: '-' :: _ =>
    let (start, value) := match Text.splitFirst '=' word with
      | some (start, value) => (start, some value)
      | none => (word, none)
    match Switch.startingWith start with
    | [] => .ok (ofDashed word)
    | [switch] => .ok (.option switch value)
    | switches => .error ⟨word, switches⟩
  | '-' :: 'h' :: rest => .ok (.option .help (valueAfterLetter rest))
  | '-' :: _ :: _ => .ok (ofDashed word)
  | _ => .ok (.plain word)

/-- The arguments of a command line. -/
def ofWords : List Text → Except Ambiguity (List Argument)
  | [] => .ok []
  | word :: rest =>
    if word = dashesWord then .ok (.dashes :: rest.map .plain)
    else do
      let argument ← ofWord word
      return argument :: (← ofWords rest)

end Argument

end LogSieve.CommandLine
