import LogSieve.Proofs.Query.Pieces

/-!
# Where a query is cut

`pieces` walks through a query and gives what is between the cuts.  Here the cuts
themselves are described, without a walk: a text is cut into pieces and the
separators between them, and these separators are exactly the characters at which
the automaton cuts (`IsCutInto`).  There is one way to do so (`existsUnique_isCutInto`),
and pieces and separators together are the whole text.

So what the scan of a query does on its way, with flags that it takes ahead and a
blank text that it holds on to, neither loses nor repeats nor moves a character
(`lexemes_eq_strip_cut`).
-/

namespace LogSieve.Query

/-- The text of some pieces, each but the first behind its separator. -/
def rejoined (first : Text) (others : List (Char × Text)) : Text :=
  first ++ others.flatMap fun (separator, piece) => separator :: piece

/-- Behind `front` stands a separator between two pieces. -/
def SeparatorBehind (first : Text) (others : List (Char × Text)) (front : Text) (c : Char) : Prop :=
  ∃ earlier piece later, others = earlier ++ (c, piece) :: later ∧ front = rejoined first earlier

/-- A text is cut into a first piece and others behind their separators. -/
structure IsCutInto (state : ScanState) (text first : Text) (others : List (Char × Text)) :
    Prop where
  /-- Nothing is lost, repeated or moved. -/
  joins : text = rejoined first others
  /-- The separators are exactly the characters at which the automaton cuts. -/
  cuts : ∀ front c back, text = front ++ c :: back →
    ((state.after front).cutsAt c = true ↔ SeparatorBehind first others front c)

@[simp] theorem rejoined_nil (first : Text) : rejoined first [] = first := by
  simp [rejoined]

@[simp] theorem rejoined_cons (first : Text) (separator : Char) (piece : Text)
    (others : List (Char × Text)) :
    rejoined first ((separator, piece) :: others) =
      first ++ separator :: rejoined piece others := by
  simp [rejoined]

@[simp] theorem rejoined_cons_first (c : Char) (first : Text) (others : List (Char × Text)) :
    rejoined (c :: first) others = c :: rejoined first others := rfl

theorem rejoined_eq_nil_iff {first : Text} {others : List (Char × Text)} :
    rejoined first others = [] ↔ first = [] ∧ others = [] := by
  cases others with
  | nil => simp
  | cons other others =>
      obtain ⟨separator, piece⟩ := other
      simp

/-! ## Separators, from the front -/

/-- A separator with nothing in front of it comes behind an empty piece. -/
theorem separatorBehind_nil_iff {first : Text} {others : List (Char × Text)} {c : Char} :
    SeparatorBehind first others [] c ↔
      first = [] ∧ ∃ piece later, others = (c, piece) :: later := by
  constructor
  · rintro ⟨earlier, piece, later, rfl, hfront⟩
    obtain ⟨rfl, rfl⟩ := rejoined_eq_nil_iff.mp hfront.symm
    exact ⟨rfl, piece, later, rfl⟩
  · rintro ⟨rfl, piece, later, rfl⟩
    exact ⟨[], piece, later, rfl, rfl⟩

theorem separatorBehind_cons_first {c d : Char} {first front : Text}
    {others : List (Char × Text)} :
    SeparatorBehind (c :: first) others (c :: front) d ↔ SeparatorBehind first others front d := by
  simp [SeparatorBehind]

/-- Behind the first separator the second piece is the first one. -/
theorem separatorBehind_cons_others {c d : Char} {piece front : Text}
    {others : List (Char × Text)} :
    SeparatorBehind [] ((c, piece) :: others) (c :: front) d ↔
      SeparatorBehind piece others front d := by
  constructor
  · rintro ⟨earlier, last, later, hothers, hfront⟩
    cases earlier with
    | nil => simp at hfront
    | cons other earlier =>
        obtain ⟨rfl, rfl⟩ := List.cons.inj hothers
        exact ⟨earlier, last, later, rfl, by simpa using hfront⟩
  · rintro ⟨earlier, last, later, rfl, rfl⟩
    exact ⟨(c, piece) :: earlier, last, later, rfl, by simp⟩

/-! ## Cutting, character by character -/

theorem isCutInto_nil {state : ScanState} {first : Text} {others : List (Char × Text)} :
    IsCutInto state [] first others ↔ first = [] ∧ others = [] := by
  constructor
  · exact fun h => rejoined_eq_nil_iff.mp h.joins.symm
  · rintro ⟨rfl, rfl⟩
    exact ⟨rfl, by simp⟩

/-- At a cut the first piece is complete. -/
theorem isCutInto_cons_of_cutsAt {state : ScanState} {c : Char} (hcut : state.cutsAt c = true)
    {rest first : Text} {others : List (Char × Text)} :
    IsCutInto state (c :: rest) first others ↔
      first = [] ∧
        ∃ piece later, others = (c, piece) :: later ∧ IsCutInto state rest piece later := by
  have hafter : ∀ front, state.after (c :: front) = state.after front := by
    intro front
    rw [ScanState.after_cons, ScanState.next_of_cutsAt hcut]
  constructor
  · intro h
    obtain ⟨rfl, piece, later, rfl⟩ := separatorBehind_nil_iff.mp ((h.cuts [] c rest rfl).mp hcut)
    refine ⟨rfl, piece, later, rfl, by simpa using h.joins, ?_⟩
    rintro front d back rfl
    rw [← hafter, h.cuts (c :: front) d back rfl, separatorBehind_cons_others]
  · rintro ⟨rfl, piece, later, rfl, h⟩
    refine ⟨by simpa using h.joins, ?_⟩
    intro front d back htext
    cases front with
    | nil =>
        obtain ⟨rfl, rfl⟩ := List.cons.inj htext
        exact iff_of_true hcut (separatorBehind_nil_iff.mpr ⟨rfl, piece, later, rfl⟩)
    | cons e front =>
        obtain ⟨rfl, hrest⟩ := List.cons.inj htext
        rw [hafter, h.cuts front d back hrest, separatorBehind_cons_others]

/-- Any other character belongs to the first piece. -/
theorem isCutInto_cons {state : ScanState} {c : Char} (hcut : state.cutsAt c = false)
    {rest first : Text} {others : List (Char × Text)} :
    IsCutInto state (c :: rest) first others ↔
      ∃ more, first = c :: more ∧ IsCutInto (state.next c) rest more others := by
  constructor
  · intro h
    have hnone : ¬ SeparatorBehind first others [] c := by
      rw [← h.cuts [] c rest rfl, ScanState.after_nil, hcut]
      exact Bool.false_ne_true
    cases first with
    | nil =>
        -- without a first piece the text would start with a separator
        cases others with
        | nil => cases h.joins
        | cons other later =>
            obtain ⟨rfl, -⟩ := List.cons.inj h.joins
            exact absurd (separatorBehind_nil_iff.mpr ⟨rfl, other.2, later, rfl⟩) hnone
    | cons d more =>
        obtain ⟨rfl, hrest⟩ := List.cons.inj h.joins
        refine ⟨more, rfl, hrest, ?_⟩
        rintro front d back rfl
        rw [← ScanState.after_cons, h.cuts (c :: front) d back rfl, separatorBehind_cons_first]
  · rintro ⟨more, rfl, h⟩
    refine ⟨congrArg (c :: ·) h.joins, ?_⟩
    intro front d back htext
    cases front with
    | nil =>
        obtain ⟨rfl, rfl⟩ := List.cons.inj htext
        have hnone : ¬ SeparatorBehind (c :: more) others [] c := by
          simp [separatorBehind_nil_iff]
        rw [ScanState.after_nil, hcut]
        exact iff_of_false Bool.false_ne_true hnone
    | cons e front =>
        obtain ⟨rfl, hrest⟩ := List.cons.inj htext
        rw [ScanState.after_cons, h.cuts front d back hrest, separatorBehind_cons_first]

/-! ## The cuts of a text -/

/-- A text is cut in one way. -/
theorem existsUnique_isCutInto (state : ScanState) (text : Text) :
    ∃! cut : Text × List (Char × Text), IsCutInto state text cut.1 cut.2 := by
  induction text generalizing state with
  | nil =>
      refine ⟨([], []), isCutInto_nil.mpr ⟨rfl, rfl⟩, ?_⟩
      rintro ⟨first, others⟩ h
      obtain ⟨rfl, rfl⟩ := isCutInto_nil.mp h
      rfl
  | cons c rest ih =>
      cases hcut : state.cutsAt c with
      | true =>
          obtain ⟨⟨piece, later⟩, hcutting, hunique⟩ := ih state
          refine ⟨([], (c, piece) :: later),
            (isCutInto_cons_of_cutsAt hcut).mpr ⟨rfl, piece, later, rfl, hcutting⟩, ?_⟩
          rintro ⟨first, others⟩ h
          obtain ⟨rfl, piece', later', rfl, h'⟩ := (isCutInto_cons_of_cutsAt hcut).mp h
          obtain ⟨rfl, rfl⟩ := Prod.mk.inj (hunique (piece', later') h')
          rfl
      | false =>
          obtain ⟨⟨more, others⟩, hcutting, hunique⟩ := ih (state.next c)
          refine ⟨(c :: more, others), (isCutInto_cons hcut).mpr ⟨more, rfl, hcutting⟩, ?_⟩
          rintro ⟨first, others'⟩ h
          obtain ⟨more', rfl, h'⟩ := (isCutInto_cons hcut).mp h
          obtain ⟨rfl, rfl⟩ := Prod.mk.inj (hunique (more', others') h')
          rfl

theorem IsCutInto.pieces_eq {state : ScanState} {text first : Text}
    {others : List (Char × Text)} (h : IsCutInto state text first others) :
    pieces state text = first :: others.map Prod.snd := by
  induction text generalizing state first others with
  | nil =>
      obtain ⟨rfl, rfl⟩ := isCutInto_nil.mp h
      rfl
  | cons c rest ih =>
      cases hcut : state.cutsAt c with
      | true =>
          obtain ⟨rfl, piece, later, rfl, hrest⟩ := (isCutInto_cons_of_cutsAt hcut).mp h
          rw [pieces, if_pos hcut, ih hrest, List.map_cons]
      | false =>
          obtain ⟨more, rfl, hrest⟩ := (isCutInto_cons hcut).mp h
          rw [pieces, hcut, if_neg Bool.false_ne_true, ih hrest, List.modifyHead_cons]

/-- The lexemes of a query are its pieces, stripped, but for the blank ones, where the query is cut
exactly at the separators that the automaton meets at its start.  There is one such cutting, and
with its separators it is the query. -/
theorem lexemes_eq_strip_cut (raw : Text) :
    ∃ first others, IsCutInto .start raw first others ∧
      (∀ first' others', IsCutInto .start raw first' others' → first' = first ∧ others' = others) ∧
      lexemes raw =
        ((first :: others.map Prod.snd).map Text.strip).filter fun lexeme => !lexeme.isEmpty := by
  obtain ⟨⟨first, others⟩, hcut, hunique⟩ := existsUnique_isCutInto .start raw
  refine ⟨first, others, hcut, ?_, ?_⟩
  · intro first' others' h
    exact Prod.mk.inj (hunique (first', others') h)
  · rw [lexemes_eq, hcut.pieces_eq]
    rfl

end LogSieve.Query
