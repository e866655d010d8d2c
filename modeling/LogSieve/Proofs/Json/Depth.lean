import LogSieve.Proofs.Json.Limits

/-!
# More room changes nothing but what is too deep

The reader asks how deep it may go only at a bracket or a brace, and then either gives
up or goes on as before.  So with more room it comes to the same result, unless it had
given up for want of room (`readValue_agrees`).
-/

namespace LogSieve.Json

section

variable {read deeper : Text → Except Fault (Value × Text)}
  (h : ∀ text, AgreesUnless .tooDeep (read text) (deeper text))

include h

theorem readItems_agrees (fuel : Nat) (text : Text) :
    AgreesUnless .tooDeep (readItems read fuel text) (readItems deeper fuel text) := by
  induction fuel generalizing text with
  | zero => exact agreesUnless_refl _
  | succ fuel ih =>
      refine (h text).bind fun (item, rest) => ?_
      simp only
      split
      · exact agreesUnless_refl _
      · exact (ih _).bind fun _ => agreesUnless_refl _
      · exact agreesUnless_refl _

theorem readMembers_agrees (fuel : Nat) (text : Text) :
    AgreesUnless .tooDeep (readMembers read fuel text) (readMembers deeper fuel text) := by
  induction fuel generalizing text with
  | zero => exact agreesUnless_refl _
  | succ fuel ih =>
      refine (agreesUnless_refl (readKey text)).bind fun (key, afterKey) => ?_
      refine (h afterKey).bind fun (value, rest) => ?_
      simp only
      split
      · exact agreesUnless_refl _
      · exact (ih _).bind fun _ => agreesUnless_refl _
      · exact agreesUnless_refl _

end

/-- With more room the reader comes to the same result, unless it had none left. -/
theorem readValue_agrees {depth deeper : Nat} (h : depth ≤ deeper) (text : Text) :
    AgreesUnless .tooDeep (readValue depth text) (readValue deeper text) := by
  induction depth generalizing deeper text with
  | zero =>
      by_cases hbracket : text.head? = some '['
      · obtain ⟨rest, rfl⟩ := List.head?_eq_some_iff.mp hbracket
        exact agreesUnless_fault _
      by_cases hbrace : text.head? = some '\x7b'
      · obtain ⟨rest, rfl⟩ := List.head?_eq_some_iff.mp hbrace
        exact agreesUnless_fault _
      rw [readValue_of_head? hbracket hbrace, readValue_of_head? hbracket hbrace]
      exact agreesUnless_refl _
  | succ depth ih =>
      obtain ⟨more, rfl⟩ : ∃ more, deeper = more + 1 := Nat.exists_eq_add_one.mpr (by omega)
      have hinner := ih (show depth ≤ more by omega)
      by_cases hbracket : text.head? = some '['
      · obtain ⟨rest, rfl⟩ := List.head?_eq_some_iff.mp hbracket
        by_cases hempty : (skipBlanks rest).head? = some ']'
        · obtain ⟨after, hafter⟩ := List.head?_eq_some_iff.mp hempty
          simp only [readValue, hafter]
          exact agreesUnless_refl _
        · rw [readValue_array hempty, readValue_array hempty]
          exact (readItems_agrees hinner _ _).map _
      by_cases hbrace : text.head? = some '\x7b'
      · obtain ⟨rest, rfl⟩ := List.head?_eq_some_iff.mp hbrace
        by_cases hempty : (skipBlanks rest).head? = some '\x7d'
        · obtain ⟨after, hafter⟩ := List.head?_eq_some_iff.mp hempty
          simp only [readValue, hafter]
          exact agreesUnless_refl _
        · rw [readValue_object hempty, readValue_object hempty]
          exact (readMembers_agrees hinner _ _).map _
      rw [readValue_of_head? hbracket hbrace, readValue_of_head? hbracket hbrace]
      exact agreesUnless_refl _

/-- A whole text is read alike as long as there is room for it. -/
theorem ofText_agrees {depth deeper : Nat} (h : depth ≤ deeper) (text : Text) :
    AgreesUnless .tooDeep (Value.ofText depth text) (Value.ofText deeper text) :=
  (readValue_agrees h (skipBlanks text)).bind fun _ => agreesUnless_refl _

end LogSieve.Json
