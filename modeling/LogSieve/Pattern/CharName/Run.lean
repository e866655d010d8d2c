import LogSieve.Text.Basic

/-!
# Runs of character names

Characters of one kind mostly have consecutive code points, and their names begin
alike.  So names are kept in runs: the code point of the first one, and all names
in order, each only from the first word on in which it differs from the one before.
-/

namespace LogSieve.Pattern

/-- The first of some consecutive code points, and the names of their characters in pieces.  A small
letter in front of each name says how many words it has in common with the one before: `a` stands
for none, `b` for one, and so on. -/
abbrev NameRun := Nat × List String

/-- The words of a name, each with the blank or the hyphen behind it. -/
def nameWords (name : Text) : List Text := name.splitBy fun c _ => c != ' ' && c != '-'

/-- The words of names that are written one after another; `before` are those of the name before
them. -/
def wordsFrom (before : List Text) : List Text → List (List Text)
  | [] => []
  | [] :: rest => wordsFrom before rest
  | (shared :: own) :: rest =>
    let words := before.take (shared.toNat - 'a'.toNat) ++ nameWords own
    words :: wordsFrom words rest

/-- The names of a run. -/
def NameRun.names (run : NameRun) : List Text :=
  let written := (run.2.flatMap String.toList).splitBy fun _ c => !c.isLower
  (wordsFrom [] written).map List.flatten

example : NameRun.names (0x61, ["aLATIN SMALL LETTER AdBcLIGATURE IJ"]) =
    ["LATIN SMALL LETTER A".toList, "LATIN SMALL LETTER B".toList,
      "LATIN SMALL LIGATURE IJ".toList] := by
  decide +kernel

/-- The code point of a name in a run. -/
def NameRun.code? (name : Text) (run : NameRun) : Option Nat :=
  (run.names.findIdx? (· == name)).map (run.1 + ·)

end LogSieve.Pattern
