import LogSieve.Proofs.Association
import LogSieve.Proofs.Json.Extent
import LogSieve.Proofs.Text.Strip
import LogSieve.Record.OfLine

/-!
# Objects are found on their line

A written object on a line is cut out as it was written when no brace stands before
it: what is behind it may hold braces and quotation marks of its own.  Its fields
are the members with a text, one for each key (`Content.ofLine_written`).
-/

namespace LogSieve

variable {stack : Stack}

namespace Embedded

open Json

/-- The text before the first brace, and the braces that balance. -/
theorem candidate?_append {before rest object : Text} (hbefore : '\x7b' ∉ before)
    (h : untilBalanced 0 false false ('\x7b' :: rest) = some object) :
    candidate? (before ++ '\x7b' :: rest) = some (before, object) := by
  have hpass : ∀ c ∈ before, (c != '\x7b') = true := by
    intro c hc
    simp only [bne_iff_ne, ne_eq]
    rintro rfl
    exact hbefore hc
  have htake : (before ++ '\x7b' :: rest).takeWhile (· != '\x7b') = before := by
    rw [List.takeWhile_append_of_pos hpass, List.takeWhile_cons_of_neg (by simp), List.append_nil]
  have hdrop : (before ++ '\x7b' :: rest).dropWhile (· != '\x7b') = '\x7b' :: rest := by
    rw [List.dropWhile_append_of_pos hpass, List.dropWhile_cons_of_neg (by simp)]
  simp only [candidate?, htake, hdrop, h, Option.map_some]

/-- An object that the reader reads to its end is cut out of its line. -/
theorem candidate?_of_readValue {before : Text} (hbefore : '\x7b' ∉ before) {depth : Nat}
    {object : Text} {value : Value} (h : readValue depth ('\x7b' :: object) = .ok (value, []))
    (tail : Text) :
    candidate? (Text.strip (before ++ '\x7b' :: object ++ tail)) =
      some (Text.stripStart before, '\x7b' :: object) := by
  obtain ⟨inner, rfl, hbalanced⟩ := untilBalanced_of_readValue h
  have hstart : '\x7b' ∉ Text.stripStart before :=
    fun hmem => hbefore ((List.dropWhile_sublist _).mem hmem)
  have hstrip : Text.strip (before ++ '\x7b' :: (inner ++ ['\x7d']) ++ tail) =
      Text.stripStart before ++ '\x7b' :: (inner ++ '\x7d' :: Text.stripEnd tail) := by
    have hline : before ++ '\x7b' :: (inner ++ ['\x7d']) ++ tail =
        before ++ '\x7b' :: inner ++ '\x7d' :: tail := by
      simp
    rw [hline, Text.strip_append_cons_append_cons (by decide) (by decide), List.append_assoc,
      List.cons_append]
  rw [hstrip]
  exact candidate?_append hstart (hbalanced _)

/-- An object is cut out of its line as it was written. -/
theorem candidate?_written {before : Text} (hbefore : '\x7b' ∉ before)
    {members : List (Text × Document)} {depth : Nat}
    (h : (Document.object members).depth ≤ depth) (tail : Text) :
    candidate? (Text.strip (before ++ (Document.object members).written ++ tail)) =
      some (Text.stripStart before, (Document.object members).written) := by
  have hread := Document.readValue_written h [] follows_nil
  rw [List.append_nil, Document.written, List.cons_append] at hread
  rw [Document.written, List.cons_append]
  exact candidate?_of_readValue hbefore hread tail

/-- The fields of an object that was written: its members with a text. -/
theorem fieldsOf_written (members : List (Text × Document)) :
    fieldsOf (Association.ofPairs (Document.memberValues members)) =
      (Association.settled members).filterMap fun (key, document) =>
        document.fieldText?.map fun text => (key, text) := by
  rw [Association.ofPairs_eq_settled, Document.memberValues_eq_map, Association.settled_map,
    fieldsOf, List.filterMap_map]
  simp only [Function.comp_def, Document.fieldText?_value]

end Embedded

/-- The fields of a line with an object are the keys of its members, in the order in which they
first come, whose last value is a string, an integer or a truth value, each with the text of that
value. -/
theorem Content.ofLine_written {before : Text} (hbefore : '\x7b' ∉ before)
    {members : List (Text × Json.Document)}
    (hdepth : (Json.Document.object members).depth ≤ stack.values) (tail : Text) :
    ∃ message, Content.ofLine stack (before ++ (Json.Document.object members).written ++ tail) =
      .ok ⟨message, (Association.settled members).filterMap fun (key, document) =>
        document.fieldText?.map fun text => (key, text)⟩ := by
  have hcandidate := Embedded.candidate?_written hbefore hdepth tail
  have hfields := Embedded.fieldsOf_written members
  rw [Content.ofLine, Embedded.content?, hcandidate]
  simp only [Json.ofText_written hdepth, Json.Document.value, hfields]
  exact ⟨_, rfl⟩

/-- Members with two keys that come twice, a key that is not ASCII, and braces in strings. -/
def Json.mixedMembers : List (Text × Json.Document) :=
  [("a".toList, .string "\"\x7b".toList), ("b".toList, .integer 7 (by decide)),
    ("é".toList, .string "\x7d".toList), ("a".toList, .boolean true),
    ("b".toList, .object [("c".toList, .null)])]

theorem Json.written_mixedMembers : (Json.Document.object Json.mixedMembers).written =
    "\x7b\"a\": \"\\\"\x7b\", \"b\": 7, \"\\u00e9\": \"\x7d\", \"a\": true, ".toList ++
      "\"b\": \x7b\"c\": null\x7d\x7d".toList := by
  decide +kernel

/-- The last value of a key decides: a truth value takes the place of a string, and an object that
of an integer, which leaves no field. -/
theorem Content.ofLine_of_mixedMembers :
    ∃ message, Content.ofLine .direct ("ok: ".toList ++
      ("\x7b\"a\": \"\\\"\x7b\", \"b\": 7, \"\\u00e9\": \"\x7d\", \"a\": true, ".toList ++
        "\"b\": \x7b\"c\": null\x7d\x7d".toList) ++ " \x7d\"\x7b".toList) =
      .ok ⟨message, [("a".toList, "true".toList), ("é".toList, "\x7d".toList)]⟩ := by
  have hdepth : (Json.Document.object Json.mixedMembers).depth ≤ Stack.direct.values := by decide
  rw [← Json.written_mixedMembers]
  exact Content.ofLine_written (by decide) hdepth " \x7d\"\x7b".toList

end LogSieve
