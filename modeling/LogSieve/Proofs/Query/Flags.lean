import LogSieve.Query.Matching
import Mathlib.Data.List.Nodup
import Mathlib.Tactic.Tauto

/-!
# Flags are a set

The flags of a pattern are walked through letter by letter, and the first fault ends the
walk.  What is left of this in the result is little: flags can be used if they are known
letters and none of them comes twice (`flagFault?_self_eq_none_iff`), and usable flags
count by what they hold, not by where they hold it.  Four letters tell something, and so
does it whether there are flags at all; flags that tell the same are the same flags
(`patternMatches_of_tellTheSame`).
-/

namespace LogSieve.Query

variable {stack : Stack}

/-- Flags that a pattern can have: known letters, none of them twice. -/
structure AreUsable (flags : Text) : Prop where
  known : ∀ c ∈ flags, c ∈ ['i', 'g', 'm', 's', 'u', 'y']
  nodup : flags.Nodup

/-- Two texts of flags that say the same: both are empty or none is, and they have the same letters
out of the four that change something. -/
structure TellTheSame (flags other : Text) : Prop where
  empty : flags = [] ↔ other = []
  letters : ∀ c ∈ ['i', 'm', 's', 'y'], c ∈ flags ↔ c ∈ other

/-- A body that is a pattern under the options of some flags. -/
def Compiles (stack : Stack) (flags body : Text) : Prop :=
  ∃ program, Pattern.programOfText stack.groups (optionsOfFlags flags) body = .ok program

/-! ## Which flags can be used -/

theorem isPatternFlag_iff {c : Char} :
    isPatternFlag c = true ↔ c ∈ ['i', 'g', 'm', 's', 'u', 'y'] :=
  List.contains_iff_mem

/-- The walk goes on behind a letter that is known and comes once. -/
theorem flagFault?_cons_eq_none_iff {all rest : Text} {flag : Char} :
    flagFault? all (flag :: rest) = none ↔
      (isPatternFlag flag = true ∧ all.count flag ≤ 1) ∧ flagFault? all rest = none := by
  -- There are two faults, that of an unknown letter before that of a repeated one.
  by_cases hknown : isPatternFlag flag = true
  · by_cases hrepeated : all.count flag > 1
    · have hmore : ¬ all.count flag ≤ 1 := Nat.not_le.mpr hrepeated
      simp [flagFault?, hknown, hrepeated, hmore]
    · have honce : all.count flag ≤ 1 := Nat.not_lt.mp hrepeated
      simp [flagFault?, hknown, hrepeated, honce]
  · simp [flagFault?, hknown]

theorem flagFault?_eq_none_iff {all flags : Text} :
    flagFault? all flags = none ↔
      ∀ c ∈ flags, isPatternFlag c = true ∧ all.count c ≤ 1 := by
  induction flags with
  | nil => exact iff_of_true rfl (fun _ h => nomatch h)
  | cons flag rest ih => rw [flagFault?_cons_eq_none_iff, ih, List.forall_mem_cons]

/-- The walk through all flags ends without a fault for usable flags and no others. -/
theorem flagFault?_self_eq_none_iff {flags : Text} :
    flagFault? flags flags = none ↔ AreUsable flags := by
  rw [flagFault?_eq_none_iff]
  constructor
  · intro h
    refine ⟨fun c hc => isPatternFlag_iff.mp (h c hc).1, ?_⟩
    rw [List.nodup_iff_count_le_one]
    intro c
    by_cases hc : c ∈ flags
    · exact (h c hc).2
    · rw [List.count_eq_zero_of_not_mem hc]
      exact Nat.zero_le 1
  · intro h c hc
    exact ⟨isPatternFlag_iff.mpr (h.known c hc), List.nodup_iff_count_le_one.mp h.nodup c⟩

theorem AreUsable.perm {flags other : Text} (h : AreUsable flags) (hperm : flags.Perm other) :
    AreUsable other :=
  ⟨fun c hc => h.known c (hperm.mem_iff.mpr hc), hperm.nodup_iff.mp h.nodup⟩

/-- A known letter more, and not one that is there already, makes no difference to whether flags can
be used. -/
theorem areUsable_insert_iff {before after : Text} {c : Char}
    (hknown : c ∈ ['i', 'g', 'm', 's', 'u', 'y']) (hc : c ∉ before ++ after) :
    AreUsable (before ++ c :: after) ↔ AreUsable (before ++ after) := by
  have hperm : (before ++ c :: after).Perm (c :: (before ++ after)) := List.perm_middle
  constructor
  · intro h
    have hfront := h.perm hperm
    refine ⟨?_, (List.nodup_cons.mp hfront.nodup).2⟩
    exact fun d hd => hfront.known d (List.mem_cons_of_mem c hd)
  · intro h
    refine AreUsable.perm ⟨?_, List.nodup_cons.mpr ⟨hc, h.nodup⟩⟩ hperm.symm
    exact List.forall_mem_cons.mpr ⟨hknown, h.known⟩

/-! ## What flags tell -/

theorem TellTheSame.of_perm {flags other : Text} (h : flags.Perm other) :
    TellTheSame flags other := by
  refine ⟨?_, fun c _ => h.mem_iff⟩
  constructor
  · rintro rfl
    exact h.nil_eq.symm
  · rintro rfl
    exact h.eq_nil

/-- The letters `g` and `u` tell nothing next to other flags. -/
theorem tellTheSame_insert {before after : Text} {c : Char} (hc : c ∈ ['g', 'u'])
    (hne : before ++ after ≠ []) : TellTheSame (before ++ c :: after) (before ++ after) := by
  constructor
  · exact iff_of_false (by simp) hne
  · intro d hd
    have hother : d ≠ c := by
      rintro rfl
      simp only [List.mem_cons, List.not_mem_nil, or_false] at hc
      rcases hc with rfl | rfl
      · exact absurd hd (by decide)
      · exact absurd hd (by decide)
    simp [hother]

theorem TellTheSame.optionsOfFlags_eq {flags other : Text} (h : TellTheSame flags other) :
    optionsOfFlags flags = optionsOfFlags other := by
  have hempty : flags.isEmpty = other.isEmpty := by
    rw [Bool.eq_iff_iff, List.isEmpty_iff, List.isEmpty_iff]
    exact h.empty
  have hletter : ∀ c ∈ ['i', 'm', 's', 'y'], flags.contains c = other.contains c := by
    intro c hc
    rw [Bool.eq_iff_iff, List.contains_iff_mem, List.contains_iff_mem]
    exact h.letters c hc
  rw [optionsOfFlags, optionsOfFlags, hempty, hletter 'i' (by decide), hletter 'm' (by decide),
    hletter 's' (by decide)]

/-! ## Patterns -/

/-- Flags that cannot be used, or a body that is no pattern under them, leave a text to look for. -/
theorem patternMatches_eq_text {flags body : Text}
    (h : ¬ AreUsable flags ∨ ¬ Compiles stack flags body) (line : Text) :
    patternMatches stack body flags line = Text.holdsIgnoringCase line body := by
  rw [patternMatches, Search.ofPattern]
  cases hfault : flagFault? flags flags with
  | some fault => rfl
  | none =>
      have hbroken : ¬ Compiles stack flags body :=
        h.resolve_left (not_not.mpr (flagFault?_self_eq_none_iff.mp hfault))
      cases hprogram : Pattern.programOfText stack.groups (optionsOfFlags flags) body with
      | ok program => exact absurd ⟨program, hprogram⟩ hbroken
      | error fault => rfl

/-- Usable flags that tell the same find the same. -/
theorem patternMatches_of_tellTheSame {flags other : Text} (hflags : AreUsable flags)
    (hother : AreUsable other) (h : TellTheSame flags other) (body line : Text) :
    patternMatches stack body flags line = patternMatches stack body other line := by
  have hstart : flags.contains 'y' = other.contains 'y' := by
    rw [Bool.eq_iff_iff, List.contains_iff_mem, List.contains_iff_mem]
    exact h.letters 'y' (by decide)
  rw [patternMatches, patternMatches, Search.ofPattern, Search.ofPattern,
    flagFault?_self_eq_none_iff.mpr hflags, flagFault?_self_eq_none_iff.mpr hother,
    h.optionsOfFlags_eq, hstart]

/-- Flags of which the one can be used exactly if the other can, and that tell the same. -/
theorem patternMatches_congr {flags other : Text} (husable : AreUsable flags ↔ AreUsable other)
    (h : TellTheSame flags other) (body line : Text) :
    patternMatches stack body flags line = patternMatches stack body other line := by
  -- Unusable flags do not matter at all: the text is looked for.
  by_cases hflags : AreUsable flags
  · exact patternMatches_of_tellTheSame hflags (husable.mp hflags) h body line
  · rw [patternMatches_eq_text (.inl hflags),
      patternMatches_eq_text (.inl (mt husable.mpr hflags))]

theorem holds_pattern (record : Record) (negated : Bool) (body flags : Text) :
    Term.holds stack record ⟨negated, .pattern body flags⟩ =
      (patternMatches stack body flags record.raw != negated) := rfl

/-- How the flags of a pattern bear on what a term finds.  Flags with an unknown or a repeated
letter, and a body that is no pattern, make a text of the term.  Of usable flags it counts whether
there are any and which of the letters `i`, `m`, `s` and `y` are among them; so neither their order
counts nor a `g` or `u` next to other flags. -/
theorem holds_pattern_by_flags (stack : Stack) (record : Record) (negated : Bool) (body : Text) :
    (∀ flags, ¬ AreUsable flags ∨ ¬ Compiles stack flags body →
        Term.holds stack record ⟨negated, .pattern body flags⟩ =
          Term.holds stack record ⟨negated, .text body⟩) ∧
      (∀ flags other, AreUsable flags → AreUsable other → TellTheSame flags other →
        Term.holds stack record ⟨negated, .pattern body flags⟩ =
          Term.holds stack record ⟨negated, .pattern body other⟩) ∧
      (∀ flags other, flags.Perm other →
        Term.holds stack record ⟨negated, .pattern body flags⟩ =
          Term.holds stack record ⟨negated, .pattern body other⟩) ∧
      ∀ before after, ∀ c ∈ ['g', 'u'], before ++ after ≠ [] → c ∉ before ++ after →
        Term.holds stack record ⟨negated, .pattern body (before ++ c :: after)⟩ =
          Term.holds stack record ⟨negated, .pattern body (before ++ after)⟩ := by
  refine ⟨?_, ?_, ?_, ?_⟩
  · intro flags h
    rw [holds_pattern, patternMatches_eq_text h]
    rfl
  · intro flags other hflags hother h
    rw [holds_pattern, holds_pattern, patternMatches_of_tellTheSame hflags hother h]
  · intro flags other h
    have husable : AreUsable flags ↔ AreUsable other :=
      ⟨fun hflags => hflags.perm h, fun hother => hother.perm h.symm⟩
    rw [holds_pattern, holds_pattern, patternMatches_congr husable (.of_perm h)]
  · intro before after c hc hne hnew
    have hknown : c ∈ ['i', 'g', 'm', 's', 'u', 'y'] := by
      simp only [List.mem_cons, List.not_mem_nil, or_false] at hc ⊢
      tauto
    rw [holds_pattern, holds_pattern,
      patternMatches_congr (areUsable_insert_iff hknown hnew) (tellTheSame_insert hc hne)]

/-- A second line that begins with another case. -/
def secondLine : Record := ⟨"a\nError".toList, none, [], none, none, none⟩

/-- The pattern is found with the flags `mi`, hence with these in the other order and a `g` between
them; with a flag that is repeated its text is looked for and is not there. -/
theorem holds_pattern_by_flags_secondLine :
    Term.holds .direct secondLine ⟨false, .pattern "^error".toList ['m', 'i']⟩ = true ∧
      Term.holds .direct secondLine ⟨false, .pattern "^error".toList ['i', 'g', 'm']⟩ = true ∧
      Term.holds .direct secondLine ⟨false, .pattern "^error".toList ['m', 'i', 'm']⟩ = false := by
  obtain ⟨htext, -, hperm, hinsert⟩ := holds_pattern_by_flags .direct secondLine false
    "^error".toList
  have hfound :
      Term.holds .direct secondLine ⟨false, .pattern "^error".toList ['m', 'i']⟩ = true := by
    decide +kernel
  have hrepeated : ¬ AreUsable ['m', 'i', 'm'] := fun h => absurd h.nodup (by decide)
  refine ⟨hfound, ?_, ?_⟩
  · calc Term.holds .direct secondLine ⟨false, .pattern "^error".toList ['i', 'g', 'm']⟩
        = Term.holds .direct secondLine ⟨false, .pattern "^error".toList ['i', 'm']⟩ :=
          hinsert ['i'] ['m'] 'g' (by decide) (by decide) (by decide)
      _ = Term.holds .direct secondLine ⟨false, .pattern "^error".toList ['m', 'i']⟩ :=
          hperm _ _ (List.Perm.swap 'm' 'i' [])
      _ = true := hfound
  · rw [htext _ (.inl hrepeated)]
    decide +kernel

end LogSieve.Query
