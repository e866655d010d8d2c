/-!
# Steps that may fail

A chain of steps that succeeds is a chain of successes, and one that fails fails at one
of its steps; the first lemmas take the first step off.  The others compare two chains
that differ only in where they give up (`AgreesUnless`).
-/

namespace LogSieve

theorem exists_of_bind_eq_ok {ε α β : Type} {first : Except ε α} {next : α → Except ε β} {b : β}
    (h : (first >>= next) = .ok b) : ∃ a, first = .ok a ∧ next a = .ok b := by
  cases first with
  | error fault => cases h
  | ok a => exact ⟨a, rfl, h⟩

theorem bind_eq_error {ε α β : Type} {first : Except ε α} {next : α → Except ε β} {fault : ε}
    (h : (first >>= next) = .error fault) :
    first = .error fault ∨ ∃ a, first = .ok a ∧ next a = .error fault := by
  cases first with
  | error other => exact .inl (congrArg Except.error (Except.error.inj h))
  | ok a => exact .inr ⟨a, rfl, h⟩

theorem error_of_map_eq_error {ε α β : Type} {first : Except ε α} {f : α → β} {fault : ε}
    (h : first.map f = .error fault) : first = .error fault := by
  cases first with
  | error other => exact congrArg Except.error (Except.error.inj h)
  | ok a => cases h

/-- What never fails succeeds. -/
theorem exists_eq_ok_iff {ε α : Type} {first : Except ε α} :
    (∃ a, first = .ok a) ↔ ∀ fault, first ≠ .error fault := by
  cases first with
  | error fault => simp
  | ok a => simp

theorem exists_of_map_eq_ok {ε α β : Type} {first : Except ε α} {f : α → β} {b : β}
    (h : first.map f = .ok b) : ∃ a, first = .ok a ∧ f a = b := by
  cases first with
  | error fault => cases h
  | ok a => exact ⟨a, rfl, Except.ok.inj h⟩

theorem ok_of_mapError_eq_ok {ε ε' α : Type} {first : Except ε α} {f : ε → ε'} {a : α}
    (h : first.mapError f = .ok a) : first = .ok a := by
  cases first with
  | error fault => cases h
  | ok b => exact congrArg Except.ok (Except.ok.inj h)

theorem exists_of_mapError_eq_error {ε ε' α : Type} {first : Except ε α} {f : ε → ε'} {fault : ε'}
    (h : first.mapError f = .error fault) : ∃ other, first = .error other ∧ f other = fault := by
  cases first with
  | error other => exact ⟨other, rfl, Except.error.inj h⟩
  | ok a => cases h

/-! ## Outcomes that agree unless a step gave up -/

/-- The second outcome is the first one, unless the first one is this fault. -/
def AgreesUnless {ε α : Type} (fault : ε) (first second : Except ε α) : Prop :=
  first = .error fault ∨ second = first

section

variable {ε α β : Type} {fault : ε} {first second : Except ε α}

theorem agreesUnless_refl (outcome : Except ε α) : AgreesUnless fault outcome outcome := .inr rfl

theorem agreesUnless_fault (outcome : Except ε α) : AgreesUnless fault (.error fault) outcome :=
  .inl rfl

theorem AgreesUnless.eq_of_ne (h : AgreesUnless fault first second)
    (hfirst : first ≠ .error fault) : second = first :=
  h.resolve_left hfirst

theorem AgreesUnless.bind {next more : α → Except ε β} (h : AgreesUnless fault first second)
    (hnext : ∀ a, AgreesUnless fault (next a) (more a)) :
    AgreesUnless fault (first >>= next) (second >>= more) := by
  rcases h with rfl | rfl
  · exact agreesUnless_fault _
  · cases second with
    | error other => exact agreesUnless_refl _
    | ok a => exact hnext a

theorem AgreesUnless.map (h : AgreesUnless fault first second) (f : α → β) :
    AgreesUnless fault (first.map f) (second.map f) := by
  rcases h with rfl | rfl
  · exact agreesUnless_fault _
  · exact agreesUnless_refl _

end

end LogSieve
