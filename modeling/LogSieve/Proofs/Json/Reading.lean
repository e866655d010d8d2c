import LogSieve.Proofs.Json.Numbers

/-!
# Documents are read back

The reader finds the value of a document in its text, whatever may follow a value
(`readValue_written`).  Arrays and objects are read item by item with a reader of
their items, of which nothing is asked but that it reads these items back
(`ReadsBack`); so the induction goes over the depth and not over the document.
-/

namespace LogSieve.Json

/-! ## What values start with -/

theorem skipBlanks_of_head {c : Char} (h : c ∉ [' ', '\t', '\n', '\r']) (rest : Text) :
    skipBlanks (c :: rest) = c :: rest := by
  simp only [List.mem_cons, List.not_mem_nil, or_false, not_or] at h
  obtain ⟨hspace, htab, hfeed, hreturn⟩ := h
  simp [skipBlanks, hspace, htab, hfeed, hreturn]

theorem skipBlanks_space (text : Text) : skipBlanks (' ' :: text) = skipBlanks text := rfl

/-- A text that starts like a value: with neither a blank nor the end of an array or an object. -/
def Starts (text : Text) : Prop :=
  ∃ c rest, text = c :: rest ∧ c ∉ [' ', '\t', '\n', '\r', ']', '\x7d']

namespace Starts

theorem append {text : Text} (h : Starts text) (rest : Text) : Starts (text ++ rest) := by
  obtain ⟨c, more, rfl, hc⟩ := h
  exact ⟨c, more ++ rest, List.cons_append, hc⟩

theorem skipBlanks {text : Text} (h : Starts text) : skipBlanks text = text := by
  obtain ⟨c, rest, rfl, hc⟩ := h
  exact skipBlanks_of_head (fun hblank => hc (List.mem_append_left [']', '\x7d'] hblank)) rest

theorem head?_ne {text : Text} (h : Starts text) (close : Char) (hclose : close ∈ [']', '\x7d']) :
    text.head? ≠ some close := by
  obtain ⟨c, rest, rfl, hc⟩ := h
  intro heq
  obtain rfl : c = close := Option.some.inj heq
  exact hc (List.mem_append_right [' ', '\t', '\n', '\r'] hclose)

theorem length_pos {text : Text} (h : Starts text) : 0 < text.length := by
  obtain ⟨c, rest, rfl, -⟩ := h
  exact Nat.succ_pos _

end Starts

/-- A number starts with a minus or a digit. -/
theorem NumberText.starts_written (number : NumberText) : Starts number.written := by
  obtain ⟨c, rest, htext, hc⟩ := number.exists_unsigned_eq_cons
  rw [written, htext]
  split
  · exact ⟨_, _, rfl, by decide⟩
  · exact ⟨c, rest, rfl, Text.isAsciiDigit_not_mem hc (by decide)⟩

namespace Document

theorem starts_written (document : Document) : Starts document.written := by
  cases document with
  | null => exact ⟨_, _, rfl, by decide⟩
  | boolean value => cases value <;> exact ⟨_, _, rfl, by decide⟩
  | integer value _ =>
      rw [written, ← NumberText.written_ofInt]
      exact (NumberText.ofInt value).starts_written
  | string value => exact ⟨_, _, rfl, by decide⟩
  | array items => exact ⟨_, _, rfl, by decide⟩
  | object members => exact ⟨_, _, rfl, by decide⟩

theorem starts_writtenItems (item : Document) (items : List Document) :
    Starts (writtenItems (item :: items)) := by
  cases items with
  | nil => exact item.starts_written
  | cons next items => exact item.starts_written.append _

theorem starts_writtenMembers (member : Text × Document) (members : List (Text × Document)) :
    Starts (writtenMembers (member :: members)) := by
  cases members <;> exact ⟨_, _, rfl, by decide⟩

theorem length_le_writtenItems (items : List Document) :
    items.length ≤ (writtenItems items).length := by
  induction items with
  | nil => exact Nat.le_refl 0
  | cons item items ih =>
      cases items with
      | nil => exact item.starts_written.length_pos
      | cons next items =>
          simp only [writtenItems, List.length_append, List.length_cons] at ih ⊢
          omega

theorem length_le_writtenMembers (members : List (Text × Document)) :
    members.length ≤ (writtenMembers members).length := by
  induction members with
  | nil => exact Nat.le_refl 0
  | cons member members ih =>
      cases members with
      | nil => exact (starts_writtenMembers member []).length_pos
      | cons next members =>
          simp only [writtenMembers, List.length_append, List.length_cons] at ih ⊢
          omega

end Document

/-! ## Single values -/

theorem readValue_of_head {c : Char} (hbracket : c ≠ '[') (hbrace : c ≠ '\x7b') (depth : Nat)
    (rest : Text) : readValue depth (c :: rest) = readScalar (c :: rest) := by
  rw [readValue.eq_def]
  split <;> simp_all

theorem readScalar_of_head {c : Char} {rest : Text} (hquote : c ≠ '"')
    (hword : word? (c :: rest) = none) : readScalar (c :: rest) = readNumber (c :: rest) := by
  unfold readScalar
  rw [hword]
  split
  · rename_i heq
    cases heq
  · split
    · rename_i heq
      exact absurd (List.cons.inj heq).1 hquote
    · rfl

/-- A number starts like no word, no string, no array and no object. -/
theorem readValue_of_digit {c : Char} (h : Text.isAsciiDigit c = true) (depth : Nat)
    (rest : Text) :
    readValue depth (c :: rest) = readNumber (c :: rest) ∧
      readValue depth ('-' :: c :: rest) = readNumber ('-' :: c :: rest) := by
  have hother : c ∉ ['"', '[', '\x7b'] := Text.isAsciiDigit_not_mem h (by decide)
  simp only [List.mem_cons, List.not_mem_nil, or_false, not_or] at hother
  obtain ⟨hquote, hbracket, hbrace⟩ := hother
  constructor
  · rw [readValue_of_head hbracket hbrace, readScalar_of_head hquote
      (word?_of_head (Text.isAsciiDigit_not_mem h (by decide)) rest)]
  · rw [readValue_of_head (by decide) (by decide), readScalar_of_head (by decide)
      (word?_of_minus (Text.isAsciiDigit_ne h (by decide)) rest)]

/-- A spelling of a number is read to its end. -/
theorem readValue_number {number : NumberText}
    (hshort : number.isInteger = true → number.whole.length ≤ digitLimit) (depth : Nat)
    {rest : Text} (hrest : EndsNumber rest) :
    readValue depth (number.written ++ rest) = .ok (number.value, rest) := by
  obtain ⟨c, more, htext, hc⟩ := number.exists_unsigned_eq_cons
  have hread := number.readNumber_written hshort hrest
  obtain ⟨hdigit, hminus⟩ := readValue_of_digit hc depth (more ++ rest)
  rw [NumberText.written, htext] at hread ⊢
  split
  · rename_i hnegative
    rw [if_pos hnegative] at hread
    exact hminus.trans hread
  · rename_i hpositive
    rw [if_neg hpositive] at hread
    exact hdigit.trans hread

namespace Document

/-- A reader gives the value of a document and leaves what follows it. -/
def ReadsBack (read : Text → Except Fault (Value × Text)) (document : Document) : Prop :=
  ∀ rest, Follows rest → read (document.written ++ rest) = .ok (document.value, rest)

theorem readValue_null (depth : Nat) (rest : Text) :
    readValue depth (null.written ++ rest) = .ok (null.value, rest) := by
  cases depth <;> rfl

theorem readValue_boolean (depth : Nat) (value : Bool) (rest : Text) :
    readValue depth ((boolean value).written ++ rest) = .ok ((boolean value).value, rest) := by
  cases depth <;> cases value <;> rfl

theorem readValue_string (depth : Nat) (t rest : Text) :
    readValue depth ((string t).written ++ rest) = .ok ((string t).value, rest) := by
  have hword : ∀ text, word? ('"' :: text) = none := word?_of_head (by decide)
  rw [written, writtenString, List.append_assoc, List.cons_append, List.singleton_append,
    readValue_of_head (by decide) (by decide), readScalar, hword]
  simp only [readString_written]
  rfl

theorem readValue_integer (depth : Nat) {n : Int}
    (h : (Text.ofNat n.natAbs).length ≤ digitLimit) {rest : Text} (hrest : Follows rest) :
    readValue depth ((integer n h).written ++ rest) = .ok ((integer n h).value, rest) := by
  have hread := @readValue_number (NumberText.ofInt n) (fun _ => h) depth rest hrest.endsNumber
  rwa [NumberText.written_ofInt, NumberText.value_ofInt] at hread

/-- A document without arrays and objects is read back at any depth. -/
theorem readsBack_of_depth_eq_zero {document : Document} (h : document.depth = 0) (depth : Nat) :
    ReadsBack (readValue depth) document := by
  intro rest hrest
  cases document with
  | null => exact readValue_null depth rest
  | boolean value => exact readValue_boolean depth value rest
  | integer value isShort => exact readValue_integer depth isShort hrest
  | string value => exact readValue_string depth value rest
  | array items => exact absurd h (Nat.succ_ne_zero _)
  | object members => exact absurd h (Nat.succ_ne_zero _)

end Document

/-! ## Arrays and objects -/

/-- An array that is not closed at once has items. -/
theorem readValue_array {depth : Nat} {text : Text} (h : (skipBlanks text).head? ≠ some ']') :
    readValue (depth + 1) ('[' :: text) =
      (readItems (readValue depth) (skipBlanks text).length (skipBlanks text)).map
        fun (items, after) => (.array items, after) := by
  rw [readValue]
  split
  · rename_i heq
    exact absurd (congrArg List.head? heq) h
  · cases readItems (readValue depth) (skipBlanks text).length (skipBlanks text) <;> rfl

/-- An object that is not closed at once has members. -/
theorem readValue_object {depth : Nat} {text : Text} (h : (skipBlanks text).head? ≠ some '\x7d') :
    readValue (depth + 1) ('\x7b' :: text) =
      (readMembers (readValue depth) (skipBlanks text).length (skipBlanks text)).map
        fun (members, after) => (.object (Association.ofPairs members), after) := by
  rw [readValue]
  split
  · rename_i heq
    exact absurd (congrArg List.head? heq) h
  · cases readMembers (readValue depth) (skipBlanks text).length (skipBlanks text) <;> rfl

namespace Document

/-- A written key is read, with its colon. -/
theorem readKey_written (key : Text) (document : Document) (rest : Text) :
    readKey (writtenString key ++ ':' :: ' ' :: (document.written ++ rest)) =
      .ok (key, document.written ++ rest) := by
  have hskip := (document.starts_written.append rest).skipBlanks
  have hcolon : skipBlanks (':' :: ' ' :: (document.written ++ rest)) =
      ':' :: ' ' :: (document.written ++ rest) := skipBlanks_of_head (by decide) _
  rw [writtenString, List.append_assoc, List.cons_append, List.singleton_append, readKey,
    readString_written]
  simp only [bind, Except.bind, hcolon, skipBlanks_space, hskip]

theorem readItems_written {read : Text → Except Fault (Value × Text)} {first : Document}
    {items : List Document} (hread : ∀ item ∈ first :: items, ReadsBack read item) {fuel : Nat}
    (hfuel : (first :: items).length ≤ fuel) (tail : Text) :
    readItems read fuel (writtenItems (first :: items) ++ ']' :: tail) =
      .ok (itemValues (first :: items), tail) := by
  induction items generalizing first fuel with
  | nil =>
      obtain ⟨fuel, rfl⟩ := Nat.exists_eq_add_one_of_ne_zero (Nat.ne_zero_of_lt hfuel)
      have hfirst := hread first List.mem_cons_self (']' :: tail) (follows_cons (by simp) tail)
      have hend : skipBlanks (']' :: tail) = ']' :: tail := skipBlanks_of_head (by decide) tail
      simp only [writtenItems, readItems, hfirst, bind, Except.bind, hend, itemValues]
  | cons next items ih =>
      obtain ⟨fuel, rfl⟩ := Nat.exists_eq_add_one_of_ne_zero (Nat.ne_zero_of_lt hfuel)
      have hnext := ih (fun item hitem => hread item (List.mem_cons_of_mem first hitem))
        (Nat.le_of_succ_le_succ hfuel)
      have hskip := ((starts_writtenItems next items).append (']' :: tail)).skipBlanks
      have hfirst := hread first List.mem_cons_self
        (',' :: ' ' :: (writtenItems (next :: items) ++ ']' :: tail)) (follows_cons (by simp) _)
      have hcomma : skipBlanks (',' :: ' ' :: (writtenItems (next :: items) ++ ']' :: tail)) =
          ',' :: ' ' :: (writtenItems (next :: items) ++ ']' :: tail) :=
        skipBlanks_of_head (by decide) _
      rw [writtenItems, List.append_assoc, List.cons_append, List.cons_append]
      simp only [readItems, hfirst, bind, Except.bind, hcomma, skipBlanks_space, hskip, hnext,
        itemValues]

theorem readMembers_written {read : Text → Except Fault (Value × Text)} {first : Text × Document}
    {members : List (Text × Document)} (hread : ∀ member ∈ first :: members, ReadsBack read member.2)
    {fuel : Nat} (hfuel : (first :: members).length ≤ fuel) (tail : Text) :
    readMembers read fuel (writtenMembers (first :: members) ++ '\x7d' :: tail) =
      .ok (memberValues (first :: members), tail) := by
  induction members generalizing first fuel with
  | nil =>
      obtain ⟨key, item⟩ := first
      obtain ⟨fuel, rfl⟩ := Nat.exists_eq_add_one_of_ne_zero (Nat.ne_zero_of_lt hfuel)
      have hitem := hread (key, item) List.mem_cons_self ('\x7d' :: tail)
        (follows_cons (by simp) tail)
      have hend : skipBlanks ('\x7d' :: tail) = '\x7d' :: tail := skipBlanks_of_head (by decide) tail
      rw [writtenMembers, List.append_assoc, List.cons_append, List.cons_append]
      simp only [readMembers, readKey_written, bind, Except.bind, hitem, hend, memberValues]
  | cons next members ih =>
      obtain ⟨key, item⟩ := first
      obtain ⟨fuel, rfl⟩ := Nat.exists_eq_add_one_of_ne_zero (Nat.ne_zero_of_lt hfuel)
      have hnext := ih (fun member hmember => hread member (List.mem_cons_of_mem _ hmember))
        (Nat.le_of_succ_le_succ hfuel)
      have hskip := ((starts_writtenMembers next members).append ('\x7d' :: tail)).skipBlanks
      have hitem := hread (key, item) List.mem_cons_self
        (',' :: ' ' :: (writtenMembers (next :: members) ++ '\x7d' :: tail))
        (follows_cons (by simp) _)
      have hcomma : skipBlanks (',' :: ' ' :: (writtenMembers (next :: members) ++ '\x7d' :: tail)) =
          ',' :: ' ' :: (writtenMembers (next :: members) ++ '\x7d' :: tail) :=
        skipBlanks_of_head (by decide) _
      rw [writtenMembers, List.append_assoc, List.cons_append, List.cons_append, List.append_assoc,
        List.cons_append, List.cons_append]
      simp only [readMembers, readKey_written, bind, Except.bind, hitem, hcomma, skipBlanks_space,
        hskip, hnext, memberValues]

theorem depth_le_itemsDepth {items : List Document} {item : Document} (h : item ∈ items) :
    item.depth ≤ itemsDepth items := by
  induction items with
  | nil => cases h
  | cons first rest ih =>
      rw [itemsDepth]
      rcases List.mem_cons.mp h with rfl | hrest
      · exact Nat.le_max_left _ _
      · exact Nat.le_trans (ih hrest) (Nat.le_max_right _ _)

theorem depth_le_membersDepth {members : List (Text × Document)} {member : Text × Document}
    (h : member ∈ members) : member.2.depth ≤ membersDepth members := by
  induction members with
  | nil => cases h
  | cons first rest ih =>
      rw [membersDepth]
      rcases List.mem_cons.mp h with rfl | hrest
      · exact Nat.le_max_left _ _
      · exact Nat.le_trans (ih hrest) (Nat.le_max_right _ _)

/-- An array is read back if its items are, one level deeper. -/
theorem readValue_written_array {depth : Nat} {items : List Document}
    (hitems : ∀ item ∈ items, ReadsBack (readValue depth) item) (rest : Text) :
    readValue (depth + 1) ((array items).written ++ rest) = .ok ((array items).value, rest) := by
  rw [written, value, List.append_assoc, List.cons_append, List.singleton_append]
  cases items with
  | nil => rfl
  | cons first items =>
      have hstart := (starts_writtenItems first items).append (']' :: rest)
      have hhead := hstart.head?_ne ']' (by decide)
      have hfuel : (first :: items).length ≤
          (writtenItems (first :: items) ++ ']' :: rest).length := by
        have hlength := length_le_writtenItems (first :: items)
        rw [List.length_append]
        omega
      rw [← hstart.skipBlanks] at hhead
      rw [readValue_array hhead, hstart.skipBlanks, readItems_written hitems hfuel]
      rfl

/-- An object is read back if its members are. -/
theorem readValue_written_object {depth : Nat} {members : List (Text × Document)}
    (hmembers : ∀ member ∈ members, ReadsBack (readValue depth) member.2) (rest : Text) :
    readValue (depth + 1) ((object members).written ++ rest) =
      .ok ((object members).value, rest) := by
  rw [written, value, List.append_assoc, List.cons_append, List.singleton_append]
  cases members with
  | nil => rfl
  | cons first members =>
      have hstart := (starts_writtenMembers first members).append ('\x7d' :: rest)
      have hhead := hstart.head?_ne '\x7d' (by decide)
      have hfuel : (first :: members).length ≤
          (writtenMembers (first :: members) ++ '\x7d' :: rest).length := by
        have hlength := length_le_writtenMembers (first :: members)
        rw [List.length_append]
        omega
      rw [← hstart.skipBlanks] at hhead
      rw [readValue_object hhead, hstart.skipBlanks, readMembers_written hmembers hfuel]
      rfl

/-- A document that is not too deep is read back. -/
theorem readValue_written {document : Document} {depth : Nat} (h : document.depth ≤ depth) :
    ReadsBack (readValue depth) document := by
  induction depth generalizing document with
  | zero => exact readsBack_of_depth_eq_zero (Nat.le_zero.mp h) 0
  | succ depth ih =>
      intro rest hrest
      cases document with
      | array items =>
          refine readValue_written_array (fun item hitem => ih ?_) rest
          have hdepth := depth_le_itemsDepth hitem
          rw [Document.depth] at h
          omega
      | object members =>
          refine readValue_written_object (fun member hmember => ih ?_) rest
          have hdepth := depth_le_membersDepth hmember
          rw [Document.depth] at h
          omega
      | null | boolean | integer | string =>
          exact readsBack_of_depth_eq_zero rfl _ rest hrest

end Document

/-- The text of an object gives its value. -/
theorem ofText_written {depth : Nat} {members : List (Text × Document)}
    (h : (Document.object members).depth ≤ depth) :
    Value.ofText depth (Document.object members).written = .ok (Document.object members).value := by
  have hread := Document.readValue_written h [] follows_nil
  rw [List.append_nil] at hread
  have hstart := (Document.object members).starts_written.skipBlanks
  have hend : skipBlanks [] = [] := rfl
  rw [Value.ofText, hstart, hread]
  simp only [bind, Except.bind, hend]

end LogSieve.Json
