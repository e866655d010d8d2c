/-!
# Texts

A text is the list of its characters.  Log lines, query texts and all their
pieces are texts; conversion from and to `String` happens only where the
outside world is met.

The cutting operations here come with the equation that says nothing is lost:
`splitFirst_eq_some` and `splitLast_eq_some` put the two pieces and the
separator back together.
-/

namespace LogSieve

/-- A text is its sequence of characters. -/
abbrev Text := List Char

namespace Text

/-- Whether `needle` is a contiguous piece of a text. -/
def occursIn (needle : Text) : Text → Bool
  | [] => needle.isEmpty
  | c :: rest => needle.isPrefixOf (c :: rest) || occursIn needle rest

/-- The text before and after the first occurrence of `mark`. -/
def splitFirst (mark : Char) : Text → Option (Text × Text)
  | [] => none
  | c :: rest =>
    if c = mark then some ([], rest)
    else (splitFirst mark rest).map fun (before, after) => (c :: before, after)

/-- The text before and after the last occurrence of `mark`. -/
def splitLast (mark : Char) : Text → Option (Text × Text)
  | [] => none
  | c :: rest =>
    match splitLast mark rest with
    | some (before, after) => some (c :: before, after)
    | none => if c = mark then some ([], rest) else none

/-- The pieces of a text between the occurrences of `mark`; there is always one. -/
def splitAll (mark : Char) : Text → List Text
  | [] => [[]]
  | c :: rest =>
    if c = mark then [] :: splitAll mark rest
    else match splitAll mark rest with
      | piece :: others => (c :: piece) :: others
      | [] => [[c]]

/-- The texts one after the other, with `glue` between neighbours. -/
def joinWith (glue : Text) : List Text → Text
  | [] => []
  | [only] => only
  | first :: others => first ++ glue ++ joinWith glue others

/-- The decimal digits of a natural number, most significant first. -/
def ofNat (n : Nat) : Text := Nat.toDigits 10 n

/-- An integer in decimal, with `-` in front of a negative one. -/
def ofInt (n : Int) : Text := if n < 0 then '-' :: ofNat n.natAbs else ofNat n.natAbs

/-- A text filled up on the left with `pad` to at least `width` characters. -/
def padStart (width : Nat) (pad : Char) (t : Text) : Text :=
  List.replicate (width - t.length) pad ++ t

theorem splitFirst_eq_some {mark : Char} {t before after : Text}
    (h : splitFirst mark t = some (before, after)) :
    t = before ++ mark :: after ∧ mark ∉ before := by
  induction t generalizing before with
  | nil => simp [splitFirst] at h
  | cons c rest ih =>
    by_cases hc : c = mark
    · simp only [splitFirst, hc, if_true, Option.some.injEq, Prod.mk.injEq] at h
      obtain ⟨rfl, rfl⟩ := h
      simp [hc]
    · simp only [splitFirst, hc, if_false, Option.map_eq_some_iff, Prod.mk.injEq] at h
      obtain ⟨⟨tail, _⟩, htail, rfl, rfl⟩ := h
      obtain ⟨hrest, hmark⟩ := ih htail
      refine ⟨by simp [hrest], ?_⟩
      simp only [List.mem_cons, not_or]
      exact ⟨fun heq => hc heq.symm, hmark⟩

theorem splitLast_eq_none {mark : Char} {t : Text} (h : splitLast mark t = none) :
    mark ∉ t := by
  induction t with
  | nil => simp
  | cons c rest ih =>
    cases hrest : splitLast mark rest with
    | some pair => simp [splitLast, hrest] at h
    | none =>
      by_cases hc : c = mark
      · simp [splitLast, hrest, hc] at h
      · simp only [List.mem_cons, not_or]
        exact ⟨fun heq => hc heq.symm, ih hrest⟩

theorem splitLast_eq_some {mark : Char} {t before after : Text}
    (h : splitLast mark t = some (before, after)) :
    t = before ++ mark :: after ∧ mark ∉ after := by
  induction t generalizing before with
  | nil => simp [splitLast] at h
  | cons c rest ih =>
    cases hrest : splitLast mark rest with
    | some pair =>
      obtain ⟨first, second⟩ := pair
      simp only [splitLast, hrest, Option.some.injEq, Prod.mk.injEq] at h
      obtain ⟨rfl, rfl⟩ := h
      obtain ⟨heq, hmark⟩ := ih hrest
      exact ⟨by simp [heq], hmark⟩
    | none =>
      by_cases hc : c = mark
      · simp only [splitLast, hrest, hc, if_true, Option.some.injEq, Prod.mk.injEq] at h
        obtain ⟨rfl, rfl⟩ := h
        exact ⟨by simp [hc], splitLast_eq_none hrest⟩
      · simp [splitLast, hrest, hc] at h

theorem splitAll_ne_nil (mark : Char) (t : Text) : splitAll mark t ≠ [] := by
  cases t with
  | nil => simp [splitAll]
  | cons c rest =>
    simp only [splitAll]
    split
    · simp
    · split <;> simp

theorem joinWith_cons (glue first : Text) {others : List Text} (h : others ≠ []) :
    joinWith glue (first :: others) = first ++ glue ++ joinWith glue others := by
  cases others with
  | nil => exact absurd rfl h
  | cons second rest => rfl

end Text

end LogSieve
