import LogSieve.Proofs.Text.Sigma
import LogSieve.Text.Blank

/-!
# Lower case next to blank characters and dots

The lower case of a text is not put together from those of its parts, since a
capital sigma looks at the letters around it.  A blank character stops it from
looking further, so a text keeps its sigmas when blank characters are put behind it
(`keepsSigmas_append_of_allBlank`).

Dots are not touched by lower case, and no other character becomes one
(`dot_mem_lowerAfter_iff`).
-/

namespace LogSieve.Text

/-- Blank characters have no case and are not passed over. -/
theorem isCased_of_isBlank {c : Char} (h : isBlank c = true) :
    isCased c = false ∧ isPassedOver c = false := by
  have hascii : ∀ n < 128, isBlank (Char.ofNat n) = true →
      isCased (Char.ofNat n) = false ∧ isPassedOver (Char.ofNat n) = false := by
    decide
  have hbeyond : ∀ range ∈ blankRanges, ∀ n ∈ List.range' range.1 (range.2 + 1 - range.1),
      casedRanges.holds n = false ∧ passedOverRanges.holds n = false := by
    decide +kernel
  by_cases hc : c.toNat < 128
  · have := hascii c.toNat hc
    rw [Char.ofNat_toNat] at this
    exact this h
  · simp only [isBlank, hc, if_false, Ranges.holds, Option.isSome_iff_exists] at h
    obtain ⟨⟨first, last⟩, hfind⟩ := h
    obtain ⟨hmem, hfirst, hlast⟩ := Ranges.find?_eq_some hfind
    simp only [isCased, isPassedOver, hc, if_false]
    refine hbeyond _ hmem _ (List.mem_range'_1.mpr ⟨hfirst, ?_⟩)
    simp only
    omega

theorem meetsCased_append_of_allBlank {blanks : Text} (h : allBlank blanks = true) (t : Text) :
    meetsCased (t ++ blanks) = meetsCased t := by
  induction t with
  | nil =>
      cases blanks with
      | nil => rfl
      | cons c rest =>
          have hc : isBlank c = true := by
            simp only [allBlank, List.all_cons, Bool.and_eq_true] at h
            exact h.1
          simp [meetsCased, isCased_of_isBlank hc]
  | cons c rest ih => simp [meetsCased, ih]

/-- Blank characters behind a text change none of its sigmas. -/
theorem keepsSigmas_append_of_allBlank {blanks : Text} (h : allBlank blanks = true) (t : Text) :
    KeepsSigmas [] t blanks := by
  intro front back ht
  rw [List.nil_append, sigmaBetween, sigmaBetween, meetsCased_append_of_allBlank h]

/-- A text holds what is left of it when blank characters at its end are taken away. -/
theorem holdsIgnoringCase_of_append {blanks : Text} (h : allBlank blanks = true) (t : Text) :
    holdsIgnoringCase (t ++ blanks) t = true :=
  holdsIgnoringCase_of_keepsSigmas (keepsSigmas_append_of_allBlank h t)

/-- A character that is its own lower case stays in the lower case of a text. -/
theorem mem_lowerAfter_of_lowerOf {c : Char} (hsigma : c ≠ 'Σ') (hlower : lowerOf c = [c])
    {t : Text} (h : c ∈ t) (before : Text) : c ∈ lowerAfter before t := by
  induction t generalizing before with
  | nil => cases h
  | cons d rest ih =>
      rw [lowerAfter]
      rcases List.mem_cons.mp h with rfl | hrest
      · rw [if_neg hsigma, hlower]
        exact List.mem_cons_self
      · have hafter := ih hrest (d :: before)
        split
        · exact List.mem_cons_of_mem _ hafter
        · exact List.mem_append_right _ hafter

theorem mem_lower_of_lowerOf {c : Char} (hsigma : c ≠ 'Σ') (hlower : lowerOf c = [c]) {t : Text}
    (h : c ∈ t) : c ∈ lower t :=
  mem_lowerAfter_of_lowerOf hsigma hlower h []

theorem holdsIgnoringCase_self (t : Text) : holdsIgnoringCase t t = true := by
  rw [holdsIgnoringCase, occursIn_iff_isInfix]

/-! ## Dots -/

/-- A code point stays above a bound if the first member of every run does. -/
theorem lt_mapCode {bound code : Nat} {runs : List CaseRun}
    (hruns : ∀ run ∈ runs, Int.ofNat bound < Int.ofNat run.1 + run.2.2.2) (hcode : bound < code) :
    bound < mapCode code runs := by
  induction runs with
  | nil => exact hcode
  | cons run rest ih =>
      obtain ⟨first, last, step, shift⟩ := run
      have hrun : Int.ofNat bound < Int.ofNat first + shift := hruns _ List.mem_cons_self
      rw [mapCode]
      split
      · exact hcode
      · split
        · simp only [Int.ofNat_eq_natCast] at hrun ⊢
          omega
        · exact ih fun other hother => hruns other (List.mem_cons_of_mem _ hother)

/-- What is no code point stands for the zero character. -/
theorem eq_toNat_of_ofNat {code : Nat} {c : Char} (h : Char.ofNat code = c) (hzero : c ≠ '\x00') :
    code = c.toNat := by
  by_cases hvalid : code.isValidChar
  · have hcode : Char.ofNat code = Char.ofNatAux code hvalid := dif_pos hvalid
    exact congrArg Char.toNat (hcode.symm.trans h)
  · have hnone : Char.ofNat code = '\x00' := dif_neg hvalid
    exact absurd (h.symm.trans hnone) hzero

/-- No other character has a dot in its lower case. -/
theorem eq_dot_of_mem_lowerOf {c : Char} (h : '.' ∈ lowerOf c) : c = '.' := by
  have hascii : ∀ n < 128, '.' ∈ lowerOf (Char.ofNat n) → Char.ofNat n = '.' := by decide
  by_cases hc : c.toNat < 128
  · have hchar := hascii c.toNat hc
    rw [Char.ofNat_toNat] at hchar
    exact hchar h
  · have habove : '.'.toNat < mapCode c.toNat lowerRuns :=
      lt_mapCode (by decide +kernel) (Nat.lt_of_lt_of_le (by decide) (Nat.le_of_not_lt hc))
    unfold lowerOf at h
    rw [if_neg hc] at h
    split at h
    · exact absurd h (by decide)
    · exact absurd (eq_toNat_of_ofNat (List.mem_singleton.mp h).symm (by decide))
        (Nat.ne_of_gt habove)

theorem dot_ne_sigmaBetween (before after : Text) : '.' ≠ sigmaBetween before after := by
  unfold sigmaBetween
  split
  · decide
  · decide

theorem lowerOf_ne_nil (c : Char) : lowerOf c ≠ [] := by
  unfold lowerOf
  split
  · exact List.cons_ne_nil _ _
  · split
    · exact List.cons_ne_nil _ _
    · exact List.cons_ne_nil _ _

/-- The lower case of a text has the dots of the text. -/
theorem dot_mem_lowerAfter_iff {before t : Text} : '.' ∈ lowerAfter before t ↔ '.' ∈ t := by
  refine ⟨fun h => ?_, fun h => mem_lowerAfter_of_lowerOf (by decide) (by decide) h before⟩
  induction t generalizing before with
  | nil => exact h
  | cons c rest ih =>
      rw [lowerAfter] at h
      split at h
      · rcases List.mem_cons.mp h with hsigma | hrest
        · exact absurd hsigma (dot_ne_sigmaBetween _ _)
        · exact List.mem_cons_of_mem c (ih hrest)
      · rcases List.mem_append.mp h with hdot | hrest
        · exact eq_dot_of_mem_lowerOf hdot ▸ List.mem_cons_self
        · exact List.mem_cons_of_mem c (ih hrest)

theorem exists_of_lower_eq_dot_cons {t lowered : Text} (h : lower t = '.' :: lowered) :
    ∃ rest, t = '.' :: rest ∧ lowerAfter ['.'] rest = lowered := by
  cases t with
  | nil => cases h
  | cons c rest =>
      rw [lower, lowerAfter] at h
      split at h
      · exact absurd (List.cons.inj h).1.symm (dot_ne_sigmaBetween _ _)
      · obtain ⟨d, more, hlower⟩ := List.exists_cons_of_ne_nil (lowerOf_ne_nil c)
        rw [hlower, List.cons_append] at h
        obtain ⟨rfl, hmore⟩ := List.cons.inj h
        obtain rfl : c = '.' := eq_dot_of_mem_lowerOf (hlower ▸ List.mem_cons_self)
        obtain rfl : more = [] := (List.cons.inj hlower).2.symm
        exact ⟨rest, rfl, hmore⟩

end LogSieve.Text
