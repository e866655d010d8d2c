import LogSieve.Proofs.Json.Extent

/-!
# The limits of the reader

A text that breaks the grammar is malformed, but the reader may give up before it
comes to know: at an integer with too many digits, and at an array or object that lies
too deep.  `Exceeds` says where such a place is met on the way from left to right, and
`readValue_eq_error_iff` that the reader gives up there and nowhere else.
-/

namespace LogSieve.Json

/-- No more digits, no fraction and no exponent follow: an integer ends here. -/
structure EndsInteger (rest : Text) : Prop where
  digits : ∀ c ∈ rest.head?, digit? c = none
  fraction : fraction? rest = none
  exponent : Number.exponent? digit? rest = none

/-- A text begins with an integer that has too many digits. -/
def IsOverlong (text : Text) (count : Nat) : Prop :=
  ∃ sign digits rest, text = sign ++ (digits ++ rest) ∧ (sign = [] ∨ sign = ['-']) ∧
    (∀ c ∈ digits, Text.isAsciiDigit c = true) ∧ digits.head? ≠ some '0' ∧
    digits.length = count ∧ digitLimit < count ∧ EndsInteger rest

section

variable (read : Text → Except Fault (Value × Text))

/-- A place where an item begins when the items of an array are read from the start of a text. -/
inductive ItemAt : Text → Text → Prop
  | first (text : Text) : ItemAt text text
  | next {text rest after place : Text} {item : Value} (hitem : read text = .ok (item, rest))
      (hcomma : skipBlanks rest = ',' :: after) (hplace : ItemAt (skipBlanks after) place) :
      ItemAt text place

/-- A place where the value of a member begins when the members of an object are read from the start
of a text. -/
inductive MemberAt : Text → Text → Prop
  | first {text key place : Text} (hkey : readKey text = .ok (key, place)) : MemberAt text place
  | next {text key afterKey rest after place : Text} {value : Value}
      (hkey : readKey text = .ok (key, afterKey)) (hvalue : read afterKey = .ok (value, rest))
      (hcomma : skipBlanks rest = ',' :: after) (hplace : MemberAt (skipBlanks after) place) :
      MemberAt text place

end

/-- The reader of values comes to a place that is beyond a limit, and why it is. -/
inductive Exceeds : Nat → Text → Fault → Prop
  | digits {depth : Nat} {text : Text} {count : Nat} (h : IsOverlong text count) :
      Exceeds depth text (.tooManyDigits count)
  | bracket {text : Text} (h : text.head? = some '[' ∨ text.head? = some '\x7b') :
      Exceeds 0 text .tooDeep
  | item {depth : Nat} {text place : Text} {fault : Fault}
      (hplace : ItemAt (readValue depth) (skipBlanks text) place)
      (h : Exceeds depth place fault) : Exceeds (depth + 1) ('[' :: text) fault
  | member {depth : Nat} {text place : Text} {fault : Fault}
      (hplace : MemberAt (readValue depth) (skipBlanks text) place)
      (h : Exceeds depth place fault) : Exceeds (depth + 1) ('\x7b' :: text) fault

/-! ## Long integers -/

theorem Follows.endsInteger {rest : Text} (h : Follows rest) : EndsInteger rest :=
  ⟨h.digit?_eq_none, h.fraction?_eq_none, h.exponent?_eq_none⟩

/-- The digits of an integer part with more than one of them. -/
theorem exists_of_integerPart? {text rest : Text} {whole : List Nat}
    (h : integerPart? text = some (whole, rest)) (hlong : 1 < whole.length) :
    ∃ digits, text = digits ++ rest ∧ (∀ c ∈ digits, Text.isAsciiDigit c = true) ∧
      digits.head? ≠ some '0' ∧ digits.length = whole.length ∧
      ∀ c ∈ rest.head?, digit? c = none := by
  unfold integerPart? at h
  split at h
  · -- a zero is an integer part of its own
    obtain ⟨rfl, -⟩ := Prod.mk.inj (Option.some.inj h)
    exact absurd hlong (Nat.lt_irrefl 1)
  · rename_i hzero
    obtain ⟨digits, after, htext, hsome, hafter, hrun⟩ := Number.exists_digitRun digit? text
    have hdigits : ∀ c ∈ digits, Text.isAsciiDigit c = true :=
      fun c hc => isAsciiDigit_of_digit? (hsome c hc)
    rw [hrun, filterMap_digit? hdigits] at h
    obtain ⟨rfl, rfl⟩ : Text.digitValues digits = whole ∧ after = rest := by
      split at h
      · cases h
      · exact Prod.mk.inj (Option.some.inj h)
    refine ⟨digits, htext, hdigits, ?_, (List.length_map _).symm, hafter⟩
    intro hhead
    obtain ⟨more, rfl⟩ := List.head?_eq_some_iff.mp hhead
    exact hzero _ htext

theorem readNumber_eq_error_iff {text : Text} {fault : Fault} (hfault : fault ≠ .malformed) :
    readNumber text = .error fault ↔
      ∃ count, fault = .tooManyDigits count ∧ IsOverlong text count := by
  constructor
  · intro h
    unfold readNumber at h
    split at h
    rename_i negative unsigned heq
    obtain ⟨sign, htext, hsign⟩ : ∃ sign, text = sign ++ unsigned ∧ (sign = [] ∨ sign = ['-']) := by
      split at heq
      · obtain ⟨-, rfl⟩ := Prod.mk.inj heq
        exact ⟨['-'], rfl, .inr rfl⟩
      · obtain ⟨-, rfl⟩ := Prod.mk.inj heq
        exact ⟨[], rfl, .inl rfl⟩
    split at h
    · exact absurd (Except.error.inj h).symm hfault
    · rename_i whole rest hwhole
      split at h
      · rename_i hfraction hexponent
        split at h
        · rename_i hlimit
          obtain ⟨digits, rfl, hdigits, hzero, hlength, hrest⟩ :=
            exists_of_integerPart? hwhole (by unfold digitLimit at hlimit; omega)
          rw [hfraction] at hexponent
          exact ⟨whole.length, (Except.error.inj h).symm, sign, digits, rest, htext, hsign, hdigits,
            hzero, hlength, hlimit, hrest, hfraction, hexponent⟩
        · cases h
      · cases h
  · rintro ⟨_, rfl, sign, digits, rest, rfl, hsign, hdigits, hzero, rfl, hlimit, hrest⟩
    have hne : digits ≠ [] := by
      rintro rfl
      cases hlimit
    have hinteger := integerPart?_whole (areDigits_of_isAsciiDigit hne hdigits)
      (fun h => absurd h hzero) hrest.digits
    rw [filterMap_digit? hdigits] at hinteger
    have hlength : (Text.digitValues digits).length = digits.length := List.length_map _
    have hread : ∀ negative, readUnsigned negative (digits ++ rest) =
        .error (.tooManyDigits digits.length) := by
      intro negative
      rw [readUnsigned, hinteger]
      show ofParts _ _ _ _ _ = _
      rw [hrest.fraction, Option.elim_none, hrest.exponent, ofParts, hlength, if_pos hlimit]
    -- behind the sign the digits are read as they stand
    rcases hsign with rfl | rfl
    · obtain ⟨c, more, rfl⟩ := List.exists_cons_of_ne_nil hne
      have hminus : c ≠ '-' := Text.isAsciiDigit_ne (hdigits c List.mem_cons_self) rfl
      exact (readNumber_digit hminus (more ++ rest)).trans (hread false)
    · exact (readNumber_minus (digits ++ rest)).trans (hread true)

theorem readString_eq_error {text : Text} {fault : Fault} (h : readString text = .error fault) :
    fault = .malformed := by
  unfold readString at h
  split at h
  · cases h
  · exact (Except.error.inj h).symm

/-- A long integer starts with neither a quotation mark nor a word. -/
theorem IsOverlong.readScalar_eq {text : Text} {count : Nat} (h : IsOverlong text count) :
    readScalar text = readNumber text := by
  obtain ⟨sign, digits, rest, rfl, hsign, hdigits, -, rfl, hlimit, -⟩ := h
  obtain ⟨c, more, rfl⟩ : ∃ c more, digits = c :: more := by
    cases digits with
    | nil => cases hlimit
    | cons c more => exact ⟨c, more, rfl⟩
  have hdigit := hdigits c List.mem_cons_self
  rcases hsign with rfl | rfl
  · exact readScalar_of_head (Text.isAsciiDigit_ne hdigit rfl)
      (word?_of_head (Text.isAsciiDigit_not_mem hdigit (by decide)) _)
  · exact readScalar_of_head (by decide) (word?_of_minus (Text.isAsciiDigit_ne hdigit rfl) _)

theorem readScalar_eq_error_iff {text : Text} {fault : Fault} (hfault : fault ≠ .malformed) :
    readScalar text = .error fault ↔
      ∃ count, fault = .tooManyDigits count ∧ IsOverlong text count := by
  constructor
  · intro h
    unfold readScalar at h
    split at h
    · cases h
    · split at h
      · exact absurd (readString_eq_error (error_of_map_eq_error h)) hfault
      · exact (readNumber_eq_error_iff hfault).mp h
  · rintro ⟨count, hcount, hlong⟩
    rw [hlong.readScalar_eq]
    exact (readNumber_eq_error_iff hfault).mpr ⟨count, hcount, hlong⟩

/-! ## Items and members -/

theorem readKey_eq_error {text : Text} {fault : Fault} (h : readKey text = .error fault) :
    fault = .malformed := by
  unfold readKey at h
  split at h
  · rcases bind_eq_error h with hstring | ⟨⟨key, after⟩, -, hcolon⟩
    · exact readString_eq_error hstring
    · simp only at hcolon
      split at hcolon
      · cases hcolon
      · exact (Except.error.inj hcolon).symm
  · exact (Except.error.inj h).symm

section

variable {read : Text → Except Fault (Value × Text)}

/-- The reader of items gives up at an item that cannot be read. -/
theorem exists_itemAt {fuel : Nat} {text : Text} {fault : Fault} (hfault : fault ≠ .malformed)
    (h : readItems read fuel text = .error fault) :
    ∃ place, ItemAt read text place ∧ read place = .error fault := by
  induction fuel generalizing text with
  | zero => exact absurd (Except.error.inj h).symm hfault
  | succ fuel ih =>
      rcases bind_eq_error h with hitem | ⟨⟨item, rest⟩, hitem, hnext⟩
      · exact ⟨text, .first text, hitem⟩
      · simp only at hnext
        split at hnext
        · cases hnext
        · rename_i after hcomma
          rcases bind_eq_error hnext with hmore | ⟨pair, -, hpair⟩
          · obtain ⟨place, hplace, hread⟩ := ih hmore
            exact ⟨place, .next hitem hcomma hplace, hread⟩
          · cases hpair
        · exact absurd (Except.error.inj hnext).symm hfault

/-- The reader of members gives up at a value that cannot be read. -/
theorem exists_memberAt {fuel : Nat} {text : Text} {fault : Fault} (hfault : fault ≠ .malformed)
    (h : readMembers read fuel text = .error fault) :
    ∃ place, MemberAt read text place ∧ read place = .error fault := by
  induction fuel generalizing text with
  | zero => exact absurd (Except.error.inj h).symm hfault
  | succ fuel ih =>
      rcases bind_eq_error h with hkey | ⟨⟨key, afterKey⟩, hkey, hnext⟩
      · exact absurd (readKey_eq_error hkey) hfault
      rcases bind_eq_error hnext with hvalue | ⟨⟨value, rest⟩, hvalue, hnext⟩
      · exact ⟨afterKey, .first hkey, hvalue⟩
      · simp only at hnext
        split at hnext
        · cases hnext
        · rename_i after hcomma
          rcases bind_eq_error hnext with hmore | ⟨pair, -, hpair⟩
          · obtain ⟨place, hplace, hread⟩ := ih hmore
            exact ⟨place, .next hkey hvalue hcomma hplace, hread⟩
          · cases hpair
        · exact absurd (Except.error.inj hnext).symm hfault

/-- What is read up to a comma makes the text shorter. -/
theorem leaves_past_comma {text rest after : Text} (h : Leaves text rest)
    (hcomma : skipBlanks rest = ',' :: after) :
    Leaves text (skipBlanks after) ∧ (skipBlanks after).length < text.length := by
  have hskip := h.trans (leaves_skipBlanks rest)
  rw [hcomma] at hskip
  have hbehind : Leaves (',' :: after) (skipBlanks after) :=
    .of_cons (by decide) (leaves_skipBlanks after)
  have hlength := (leaves_skipBlanks after).length_le
  exact ⟨hskip.trans hbehind, Nat.lt_of_lt_of_le (Nat.lt_succ_of_le hlength) hskip.length_le⟩

variable {text place : Text} {fault : Fault}
  (hread : ∀ text value rest, read text = .ok (value, rest) → Leaves text rest)

include hread

/-- The fuel is no reason to give up: an item that cannot be read is come to before it ends. -/
theorem readItems_eq_error (h : ItemAt read text place) (hplace : place ≠ [])
    (hfault : read place = .error fault) {fuel : Nat} (hfuel : text.length ≤ fuel) :
    readItems read fuel text = .error fault := by
  induction h generalizing fuel with
  | first text =>
      have hpos := List.length_pos_iff.mpr hplace
      obtain ⟨fuel, rfl⟩ : ∃ less, fuel = less + 1 := Nat.exists_eq_add_one.mpr (by omega)
      rw [readItems, hfault]
      rfl
  | @next text rest after place item hitem hcomma hnext ih =>
      have hshorter := (leaves_past_comma (hread _ _ _ hitem) hcomma).2
      obtain ⟨fuel, rfl⟩ : ∃ less, fuel = less + 1 := Nat.exists_eq_add_one.mpr (by omega)
      rw [readItems, hitem]
      simp only [bind, Except.bind, hcomma, ih hplace hfault (show _ ≤ fuel by omega)]

theorem readMembers_eq_error (h : MemberAt read text place) (hplace : place ≠ [])
    (hfault : read place = .error fault) {fuel : Nat} (hfuel : text.length ≤ fuel) :
    readMembers read fuel text = .error fault := by
  induction h generalizing fuel with
  | @first text key place hkey =>
      have hlength := (leaves_of_readKey hkey).length_le
      have hpos := List.length_pos_iff.mpr hplace
      obtain ⟨fuel, rfl⟩ : ∃ less, fuel = less + 1 := Nat.exists_eq_add_one.mpr (by omega)
      rw [readMembers, hkey]
      simp only [bind, Except.bind, hfault]
  | @next text key afterKey rest after place value hkey hvalue hcomma hnext ih =>
      have hmember := (leaves_of_readKey hkey).trans (hread _ _ _ hvalue)
      have hshorter := (leaves_past_comma hmember hcomma).2
      obtain ⟨fuel, rfl⟩ : ∃ less, fuel = less + 1 := Nat.exists_eq_add_one.mpr (by omega)
      rw [readMembers, hkey]
      simp only [bind, Except.bind, hvalue, hcomma, ih hplace hfault (show _ ≤ fuel by omega)]

end

/-! ## Values -/

/-- A long integer starts with a sign or a digit. -/
theorem IsOverlong.head?_ne {text : Text} {count : Nat} (h : IsOverlong text count) {mark : Char}
    (hmark : Text.isAsciiDigit mark = false) (hminus : mark ≠ '-') : text.head? ≠ some mark := by
  obtain ⟨sign, digits, rest, rfl, hsign, hdigits, -, rfl, hlimit, -⟩ := h
  rcases hsign with rfl | rfl
  · cases digits with
    | nil => cases hlimit
    | cons c more =>
        exact fun heq =>
          Text.isAsciiDigit_ne (hdigits c List.mem_cons_self) hmark (Option.some.inj heq)
  · exact fun heq => hminus (Option.some.inj heq).symm

theorem Exceeds.ne_nil {depth : Nat} {text : Text} {fault : Fault} (h : Exceeds depth text fault) :
    text ≠ [] := by
  cases h with
  | digits hlong =>
      obtain ⟨sign, digits, rest, rfl, -, -, -, rfl, hlimit, -⟩ := hlong
      have hne : digits ≠ [] := by
        rintro rfl
        cases hlimit
      simp [hne]
  | bracket hhead =>
      rintro rfl
      rcases hhead with heq | heq <;> cases heq
  | item | member => exact List.cons_ne_nil _ _

theorem readValue_of_head? {text : Text} (hbracket : text.head? ≠ some '[')
    (hbrace : text.head? ≠ some '\x7b') (depth : Nat) : readValue depth text = readScalar text := by
  cases text with
  | nil => cases depth <;> rfl
  | cons c rest =>
      exact readValue_of_head (fun heq => hbracket (congrArg some heq))
        (fun heq => hbrace (congrArg some heq)) depth rest

theorem readValue_close (depth : Nat) (rest : Text) :
    readValue depth (']' :: rest) = .error .malformed := by
  rw [readValue_of_head (by decide) (by decide),
    readScalar_of_head (by decide) (word?_of_head (by decide) rest)]
  rfl

/-- Outside of brackets and braces, only long integers are beyond a limit. -/
theorem exceeds_iff_of_head? {depth : Nat} {text : Text} {fault : Fault}
    (hbracket : text.head? ≠ some '[') (hbrace : text.head? ≠ some '\x7b') :
    Exceeds depth text fault ↔ ∃ count, fault = .tooManyDigits count ∧ IsOverlong text count := by
  constructor
  · intro h
    cases h with
    | digits hlong => exact ⟨_, rfl, hlong⟩
    | bracket hhead =>
        rcases hhead with heq | heq
        · exact absurd heq hbracket
        · exact absurd heq hbrace
    | item => exact absurd rfl hbracket
    | member => exact absurd rfl hbrace
  · rintro ⟨count, rfl, hlong⟩
    exact .digits hlong

section

variable {depth : Nat} {text : Text} {fault : Fault}

theorem readValue_bracket_eq_error_iff (hfault : fault ≠ .malformed)
    (hread : ∀ place, readValue depth place = .error fault ↔ Exceeds depth place fault) :
    readValue (depth + 1) ('[' :: text) = .error fault ↔
      Exceeds (depth + 1) ('[' :: text) fault := by
  constructor
  · intro h
    rw [readValue] at h
    split at h
    · cases h
    · rcases bind_eq_error h with hitems | ⟨pair, -, hpair⟩
      · obtain ⟨place, hplace, hgiven⟩ := exists_itemAt hfault hitems
        exact .item hplace ((hread place).mp hgiven)
      · cases hpair
  · intro h
    obtain ⟨place, hplace, hexceeds⟩ :
        ∃ place, ItemAt (readValue depth) (skipBlanks text) place ∧ Exceeds depth place fault := by
      cases h with
      | digits hlong => exact absurd rfl (hlong.head?_ne (by decide) (by decide))
      | item hplace hexceeds => exact ⟨_, hplace, hexceeds⟩
    have hgiven := (hread place).mpr hexceeds
    rw [readValue]
    split
    · -- nothing is read from the bracket that closes an empty array
      rename_i after hclose
      rw [hclose] at hplace
      cases hplace with
      | first =>
          rw [readValue_close] at hgiven
          exact absurd (Except.error.inj hgiven).symm hfault
      | next hitem =>
          rw [readValue_close] at hitem
          cases hitem
    · rw [readItems_eq_error (fun _ _ _ => leaves_of_readValue) hplace hexceeds.ne_nil hgiven
        (Nat.le_refl _)]
      rfl

theorem readValue_brace_eq_error_iff (hfault : fault ≠ .malformed)
    (hread : ∀ place, readValue depth place = .error fault ↔ Exceeds depth place fault) :
    readValue (depth + 1) ('\x7b' :: text) = .error fault ↔
      Exceeds (depth + 1) ('\x7b' :: text) fault := by
  constructor
  · intro h
    rw [readValue] at h
    split at h
    · cases h
    · rcases bind_eq_error h with hmembers | ⟨pair, -, hpair⟩
      · obtain ⟨place, hplace, hgiven⟩ := exists_memberAt hfault hmembers
        exact .member hplace ((hread place).mp hgiven)
      · cases hpair
  · intro h
    obtain ⟨place, hplace, hexceeds⟩ :
        ∃ place, MemberAt (readValue depth) (skipBlanks text) place ∧
          Exceeds depth place fault := by
      cases h with
      | digits hlong => exact absurd rfl (hlong.head?_ne (by decide) (by decide))
      | member hplace hexceeds => exact ⟨_, hplace, hexceeds⟩
    have hgiven := (hread place).mpr hexceeds
    rw [readValue]
    split
    · -- no key is read from the brace that closes an empty object
      rename_i after hclose
      rw [hclose] at hplace
      cases hplace with
      | first hkey => cases hkey
      | next hkey => cases hkey
    · rw [readMembers_eq_error (fun _ _ _ => leaves_of_readValue) hplace hexceeds.ne_nil hgiven
        (Nat.le_refl _)]
      rfl

/-- No bracket is read where arrays and objects may lie no deeper. -/
theorem readValue_zero_eq_error_iff (hhead : text.head? = some '[' ∨ text.head? = some '\x7b') :
    readValue 0 text = .error fault ↔ Exceeds 0 text fault := by
  have hdeep : readValue 0 text = .error .tooDeep := by
    rcases hhead with heq | heq <;>
    · obtain ⟨rest, rfl⟩ := List.head?_eq_some_iff.mp heq
      rfl
  rw [hdeep]
  constructor
  · intro h
    obtain rfl : .tooDeep = fault := Except.error.inj h
    exact .bracket hhead
  · intro h
    cases h with
    | digits hlong =>
        rcases hhead with heq | heq
        · exact absurd heq (hlong.head?_ne (by decide) (by decide))
        · exact absurd heq (hlong.head?_ne (by decide) (by decide))
    | bracket => rfl

/-- The reader gives up where a limit is exceeded, and nowhere else. -/
theorem readValue_eq_error_iff (hfault : fault ≠ .malformed) :
    readValue depth text = .error fault ↔ Exceeds depth text fault := by
  -- on the depth, as the reader of items is the reader of values one level further down
  induction depth generalizing text with
  | zero =>
      by_cases hhead : text.head? = some '[' ∨ text.head? = some '\x7b'
      · exact readValue_zero_eq_error_iff hhead
      · obtain ⟨hbracket, hbrace⟩ := not_or.mp hhead
        rw [readValue_of_head? hbracket hbrace, readScalar_eq_error_iff hfault,
          exceeds_iff_of_head? hbracket hbrace]
  | succ depth ih =>
      by_cases hbracket : text.head? = some '['
      · obtain ⟨rest, rfl⟩ := List.head?_eq_some_iff.mp hbracket
        exact readValue_bracket_eq_error_iff hfault fun _ => ih
      by_cases hbrace : text.head? = some '\x7b'
      · obtain ⟨rest, rfl⟩ := List.head?_eq_some_iff.mp hbrace
        exact readValue_brace_eq_error_iff hfault fun _ => ih
      · rw [readValue_of_head? hbracket hbrace, readScalar_eq_error_iff hfault,
          exceeds_iff_of_head? hbracket hbrace]

/-- A whole text: what is wrong behind its value is a matter of the grammar. -/
theorem ofText_eq_error_iff (hfault : fault ≠ .malformed) :
    Value.ofText depth text = .error fault ↔ Exceeds depth (skipBlanks text) fault := by
  rw [← readValue_eq_error_iff hfault, Value.ofText]
  constructor
  · intro h
    rcases bind_eq_error h with hvalue | ⟨⟨value, rest⟩, -, hrest⟩
    · exact hvalue
    · simp only at hrest
      split at hrest
      · cases hrest
      · exact absurd (Except.error.inj hrest).symm hfault
  · intro h
    rw [h]
    rfl

theorem Exceeds.ne_malformed (h : Exceeds depth text fault) : fault ≠ .malformed := by
  induction h with
  | digits => exact fun heq => nomatch heq
  | bracket => exact fun heq => nomatch heq
  | item _ _ ih => exact ih
  | member _ _ ih => exact ih

end

end LogSieve.Json
