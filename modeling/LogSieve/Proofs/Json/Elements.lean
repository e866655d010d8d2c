import LogSieve.Proofs.Json.Reading

/-!
# Arrays and objects as lists of elements

The readers of items and of members differ in what an element is and in the mark that
closes the list.  Both are one reader of elements with commas between them
(`readItems_eq_readListed`, `readMembers_eq_readListed`), so what holds of every list is
proved once, and a value is a list in brackets, a list in braces or a scalar
(`readValue_bracket`, `readValue_brace`, `readValue_cases`).  A whole text is one value
between blanks (`exists_rest_of_ofText`).
-/

namespace LogSieve.Json

/-- Elements with commas between them, up to a closing mark. -/
def readListed {α : Type} (read : Text → Except Fault (α × Text)) (close : Char) :
    Nat → Text → Except Fault (List α × Text)
  | 0, _ => .error .malformed
  | fuel + 1, text => do
    let (element, rest) ← read text
    match skipBlanks rest with
    | [] => .error .malformed
    | c :: after =>
      if c = close then .ok ([element], after)
      else if c = ',' then
        let (elements, tail) ← readListed read close fuel (skipBlanks after)
        .ok (element :: elements, tail)
      else .error .malformed

/-- No elements or some, between an opening mark and a closing one. -/
def readEnclosed {α : Type} (read : Text → Except Fault (α × Text)) (close : Char)
    (make : List α → Value) (text : Text) : Except Fault (Value × Text) :=
  match skipBlanks text with
  | [] => .error .malformed
  | c :: inner =>
    if c = close then .ok (make [], inner)
    else (readListed read close (c :: inner).length (c :: inner)).map
      fun (elements, after) => (make elements, after)

/-- A key and its value. -/
def readMember (read : Text → Except Fault (Value × Text)) (text : Text) :
    Except Fault ((Text × Value) × Text) := do
  let (key, afterKey) ← readKey text
  let (value, rest) ← read afterKey
  .ok ((key, value), rest)

section

variable (read : Text → Except Fault (Value × Text))

theorem readItems_eq_readListed (fuel : Nat) (text : Text) :
    readItems read fuel text = readListed read ']' fuel text := by
  induction fuel generalizing text with
  | zero => rfl
  | succ fuel ih =>
      rw [readItems, readListed]
      cases hitem : read text with
      | error fault => rfl
      | ok found =>
          simp only [bind, Except.bind, ih]
          cases skipBlanks found.2 with
          | nil => rfl
          | cons c after =>
              by_cases hclose : c = ']'
              · simp [hclose]
              · by_cases hcomma : c = ','
                · simp [hcomma]
                · simp [hclose, hcomma]

theorem readMembers_eq_readListed (fuel : Nat) (text : Text) :
    readMembers read fuel text = readListed (readMember read) '\x7d' fuel text := by
  induction fuel generalizing text with
  | zero => rfl
  | succ fuel ih =>
      rw [readMembers, readListed, readMember]
      cases hkey : readKey text with
      | error fault => rfl
      | ok key =>
          simp only [bind, Except.bind, ih]
          cases hvalue : read key.2 with
          | error fault => rfl
          | ok found =>
              simp only
              cases skipBlanks found.2 with
              | nil => rfl
              | cons c after =>
                  by_cases hclose : c = '\x7d'
                  · simp [hclose]
                  · by_cases hcomma : c = ','
                    · simp [hcomma]
                    · simp [hclose, hcomma]

end

theorem readValue_bracket (depth : Nat) (text : Text) :
    readValue (depth + 1) ('[' :: text) = readEnclosed (readValue depth) ']' .array text := by
  rw [readEnclosed]
  cases hskip : skipBlanks text with
  | nil => simp [readValue, hskip, readItems, bind, Except.bind]
  | cons c inner =>
      by_cases hc : c = ']'
      · simp [readValue, hskip, hc]
      · have hhead : (skipBlanks text).head? ≠ some ']' := by simpa [hskip] using hc
        rw [readValue_array hhead, readItems_eq_readListed, hskip]
        simp only [hc, if_false]

theorem readValue_brace (depth : Nat) (text : Text) :
    readValue (depth + 1) ('\x7b' :: text) =
      readEnclosed (readMember (readValue depth)) '\x7d'
        (fun members => .object (Association.ofPairs members)) text := by
  rw [readEnclosed]
  cases hskip : skipBlanks text with
  | nil => simp [readValue, hskip, readMembers, bind, Except.bind]
  | cons c inner =>
      by_cases hc : c = '\x7d'
      · simp [readValue, hskip, hc]
        rfl
      · have hhead : (skipBlanks text).head? ≠ some '\x7d' := by simpa [hskip] using hc
        rw [readValue_object hhead, readMembers_eq_readListed, hskip]
        simp only [hc, if_false]

theorem readValue_cases (text : Text) :
    (∃ inner, text = '[' :: inner) ∨ (∃ inner, text = '\x7b' :: inner) ∨
      ∀ depth, readValue depth text = readScalar text := by
  cases text with
  | nil =>
      refine .inr (.inr fun depth => ?_)
      cases depth <;> rfl
  | cons c rest =>
      by_cases hbracket : c = '['
      · exact .inl ⟨rest, hbracket ▸ rfl⟩
      by_cases hbrace : c = '\x7b'
      · exact .inr (.inl ⟨rest, hbrace ▸ rfl⟩)
      · exact .inr (.inr fun depth => readValue_of_head hbracket hbrace depth rest)

/-- The value of a whole text has nothing but blanks behind it. -/
theorem exists_rest_of_ofText {depth : Nat} {text : Text} {value : Value}
    (h : Value.ofText depth text = .ok value) :
    ∃ rest, readValue depth (skipBlanks text) = .ok (value, rest) ∧ skipBlanks rest = [] := by
  obtain ⟨⟨found, rest⟩, hread, hend⟩ := exists_of_bind_eq_ok h
  simp only at hend
  split at hend
  · rename_i hblank
    obtain rfl := Except.ok.inj hend
    exact ⟨rest, hread, hblank⟩
  · cases hend

end LogSieve.Json
