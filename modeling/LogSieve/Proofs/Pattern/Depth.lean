import LogSieve.Pattern.Program
import LogSieve.Proofs.Outcome

/-!
# More room changes nothing but what is too deep

The reader of patterns asks how deep groups may lie only where it enters one.  Each
reader that is given a reader of what lies inside does the same with a reader that goes
deeper, unless the first one gives up for want of room; so with more room a pattern is
read as before (`programOfText_agrees`).
-/

namespace LogSieve.Pattern

/-- Two steps come to the same from every progress, unless the first one comes too deep. -/
structure StepsAgree {α : Type} (first second : Read α) : Prop where
  run : ∀ progress, AgreesUnless .tooDeep (first.run progress) (second.run progress)

theorem stepsAgree_refl {α : Type} (step : Read α) : StepsAgree step step :=
  ⟨fun _ => agreesUnless_refl _⟩

theorem StepsAgree.bind {α β : Type} {first second : Read α} {next more : α → Read β}
    (h : StepsAgree first second) (hnext : ∀ a, StepsAgree (next a) (more a)) :
    StepsAgree (first >>= next) (second >>= more) :=
  ⟨fun progress => (h.run progress).bind fun (a, after) => (hnext a).run after⟩

theorem StepsAgree.map {α β : Type} {first second : Read α} (h : StepsAgree first second)
    (f : α → β) : StepsAgree (f <$> first) (f <$> second) :=
  ⟨fun progress => (h.run progress).bind fun _ => agreesUnless_refl _⟩

section

variable {inside deeper : Part → Bool → Read (List Item)}
  (h : ∀ part verbose, StepsAgree (inside part verbose) (deeper part verbose))

include h

/-! ## Groups -/

theorem readGroup_agrees (verbose : Bool) (name : Option Text) (captures atomic : Bool)
    (on off : Options) :
    StepsAgree (readGroup inside verbose name captures atomic on off)
      (readGroup deeper verbose name captures atomic on off) := by
  unfold readGroup
  simp only
  split
  · refine (stepsAgree_refl _).bind fun number => ?_
    exact (h _ _).bind fun body => stepsAgree_refl _
  · refine (stepsAgree_refl _).bind fun number => ?_
    exact (h _ _).bind fun body => stepsAgree_refl _

theorem readLook_agrees (verbose behind negated : Bool) :
    StepsAgree (readLook inside verbose behind negated)
      (readLook deeper verbose behind negated) := by
  unfold readLook
  refine (stepsAgree_refl _).bind fun progress => ?_
  simp only
  split
  · refine (stepsAgree_refl _).bind fun _ => ?_
    exact (h _ _).bind fun body => stepsAgree_refl _
  · exact (h _ _).bind fun body => stepsAgree_refl _

theorem readConditional_agrees (verbose : Bool) :
    StepsAgree (readConditional inside verbose) (readConditional deeper verbose) := by
  unfold readConditional
  refine (stepsAgree_refl _).bind fun name => ?_
  refine (stepsAgree_refl _).bind fun group => ?_
  refine (stepsAgree_refl _).bind fun _ => ?_
  refine (h _ _).bind fun yes => ?_
  refine (stepsAgree_refl _).bind fun bar => ?_
  split
  · exact ((h _ _).map some).bind fun no => stepsAgree_refl _
  · exact stepsAgree_refl _

theorem readNamed_agrees (verbose : Bool) :
    StepsAgree (readNamed inside verbose) (readNamed deeper verbose) := by
  unfold readNamed
  refine (stepsAgree_refl _).bind fun opens => ?_
  split
  · refine (stepsAgree_refl _).bind fun name => ?_
    split
    · exact readGroup_agrees h ..
    · exact stepsAgree_refl _
  · exact stepsAgree_refl _

theorem readOpened_agrees (verbose : Bool) :
    StepsAgree (readOpened inside verbose) (readOpened deeper verbose) := by
  unfold readOpened
  refine (stepsAgree_refl _).bind fun extended => ?_
  split
  · refine (stepsAgree_refl _).bind fun mark => ?_
    split
    · exact stepsAgree_refl _
    · exact (readNamed_agrees h _).map _
    · exact (readGroup_agrees h ..).map _
    · exact (readGroup_agrees h ..).map _
    · exact stepsAgree_refl _
    · exact (readLook_agrees h ..).map _
    · exact (readLook_agrees h ..).map _
    · refine (stepsAgree_refl _).bind fun mark => ?_
      split
      · exact (readLook_agrees h ..).map _
      · exact (readLook_agrees h ..).map _
      · exact stepsAgree_refl _
    · exact (readConditional_agrees h _).map _
    · refine (stepsAgree_refl _).bind fun options => ?_
      split
      · exact stepsAgree_refl _
      · exact (readGroup_agrees h ..).map _
  · exact (readGroup_agrees h ..).map _

/-! ## Sequences and choices -/

theorem readSequence_agrees (first : Bool) (fuel : Nat) (verbose : Bool) (items : List Item) :
    StepsAgree (readSequence inside first fuel verbose items)
      (readSequence deeper first fuel verbose items) := by
  induction fuel generalizing verbose items with
  | zero => exact stepsAgree_refl _
  | succ fuel ih =>
      -- only behind a parenthesis is there a look inside; all other marks go on with the same items
      unfold readSequence
      refine (stepsAgree_refl _).bind fun next => ?_
      split
      · exact stepsAgree_refl _
      · exact stepsAgree_refl _
      · exact stepsAgree_refl _
      · refine (stepsAgree_refl _).bind fun progress => ?_
        refine (stepsAgree_refl _).bind fun _ => ?_
        split
        · exact (stepsAgree_refl _).bind fun item => ih _ _
        · split
          · exact ih _ _
          · split
            · refine (stepsAgree_refl _).bind fun progress => ?_
              exact (stepsAgree_refl _).bind fun _ => ih _ _
            · split
              · exact (stepsAgree_refl _).bind fun item => ih _ _
              · exact (stepsAgree_refl _).bind fun items => ih _ _
              · exact (stepsAgree_refl _).bind fun items => ih _ _
              · exact (stepsAgree_refl _).bind fun items => ih _ _
              · refine (stepsAgree_refl _).bind fun counts => ?_
                split
                · exact ih _ _
                · exact (stepsAgree_refl _).bind fun items => ih _ _
              · exact ih _ _
              · exact ih _ _
              · exact ih _ _
              · refine (readOpened_agrees h _).bind fun opened => ?_
                split
                · exact ih _ _
                · exact ih _ _
                · split
                  · exact (stepsAgree_refl _).bind fun progress => ih _ _
                  · exact stepsAgree_refl _
              · exact ih _ _

theorem readAlternatives_agrees (top : Bool) (fuel : Nat) (verbose : Bool)
    (before : List (List Item)) :
    StepsAgree (readAlternatives inside top fuel verbose before)
      (readAlternatives deeper top fuel verbose before) := by
  induction fuel generalizing verbose before with
  | zero => exact stepsAgree_refl _
  | succ fuel ih =>
      unfold readAlternatives
      refine (stepsAgree_refl _).bind fun progress => ?_
      refine (readSequence_agrees h ..).bind fun items => ?_
      refine (stepsAgree_refl _).bind fun bar => ?_
      split
      · exact (stepsAgree_refl _).bind fun progress => ih _ _
      · exact stepsAgree_refl _

end

/-! ## Patterns -/

theorem readPart_agrees {depth deeper : Nat} (h : depth ≤ deeper) (top : Bool) (part : Part)
    (verbose : Bool) :
    StepsAgree (readPart depth top part verbose) (readPart deeper top part verbose) := by
  induction depth generalizing deeper top part verbose with
  | zero => exact ⟨fun _ => agreesUnless_fault _⟩
  | succ depth ih =>
      obtain ⟨more, rfl⟩ : ∃ more, deeper = more + 1 := Nat.exists_eq_add_one.mpr (by omega)
      have hinside := fun part verbose => ih (show depth ≤ more by omega) false part verbose
      unfold readPart
      refine (stepsAgree_refl _).bind fun progress => ?_
      cases part with
      | alternatives =>
          exact (readAlternatives_agrees hinside ..).bind fun _ => stepsAgree_refl _
      | branch => exact readSequence_agrees hinside ..

theorem readPattern_agrees {depth deeper : Nat} (h : depth ≤ deeper) :
    StepsAgree (readPattern depth) (readPattern deeper) := by
  unfold readPattern
  refine (stepsAgree_refl _).bind fun start => ?_
  refine (stepsAgree_refl _).bind fun _ => ?_
  exact (readPart_agrees h ..).bind fun items => stepsAgree_refl _

/-- A pattern whose groups find room has the same program where there is more of it. -/
theorem programOfText_agrees {depth deeper : Nat} (h : depth ≤ deeper) (options : Options)
    (text : Text) :
    AgreesUnless .tooDeep (programOfText depth options text)
      (programOfText deeper options text) := by
  have hitems : AgreesUnless .tooDeep (itemsOfText depth options text)
      (itemsOfText deeper options text) :=
    ((readPattern_agrees h).run _).map Prod.fst
  exact hitems.bind fun _ => agreesUnless_refl _

end LogSieve.Pattern
