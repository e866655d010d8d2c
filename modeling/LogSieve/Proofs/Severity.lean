import LogSieve.Proofs.Text.Sigma
import LogSieve.Severity

/-!
# Guessed severities

A severity is guessed from the first of five words that the lower case of a text holds,
and the words stand in the order of their severities, the strongest first
(`mentioned?_eq_find?`).  More text around a text does not hide a word of it: only sigmas
change their lower case with what stands around them, and no word has one.  So a word that
was found is found again, unless a stronger one is (`mentioned?_append_append`).
-/

namespace LogSieve.Severity

/-- The words that a guess goes by, in the order in which they are looked for. -/
def keywords : List (Text × Severity) :=
  [("error".toList, error), ("fatal".toList, error), ("warn".toList, warn), ("info".toList, info),
    ("debug".toList, debug)]

/-- No word stands before one of a stronger severity. -/
theorem keywords_descending :
    keywords.Pairwise fun earlier later => later.2.ordinal ≤ earlier.2.ordinal := by
  decide

theorem sigma_not_mem_of_mem_keywords {keyword : Text × Severity} (h : keyword ∈ keywords) :
    'σ' ∉ keyword.1 ∧ 'ς' ∉ keyword.1 := by
  revert keyword
  decide

/-- A guess is the severity of the first word that is found. -/
theorem mentioned?_eq_find? (message : Text) :
    mentioned? message =
      (keywords.find? fun keyword => Text.occursIn keyword.1 message.lower).map Prod.snd := by
  unfold mentioned? keywords
  by_cases herror : Text.occursIn "error".toList message.lower = true
  · simp only [herror, Bool.true_or, if_true, List.find?_cons, Option.map_some]
  by_cases hfatal : Text.occursIn "fatal".toList message.lower = true
  · simp only [herror, hfatal, Bool.or_true, if_true, List.find?_cons, Option.map_some]
  by_cases hwarn : Text.occursIn "warn".toList message.lower = true
  · simp only [herror, hfatal, hwarn, Bool.or_false, Bool.false_eq_true, if_false, if_true,
      List.find?_cons, Option.map_some]
  by_cases hinfo : Text.occursIn "info".toList message.lower = true
  · simp only [herror, hfatal, hwarn, hinfo, Bool.or_false, Bool.false_eq_true, if_false, if_true,
      List.find?_cons, Option.map_some]
  by_cases hdebug : Text.occursIn "debug".toList message.lower = true
  · simp only [herror, hfatal, hwarn, hinfo, hdebug, Bool.or_false, Bool.false_eq_true, if_false,
      if_true, List.find?_cons, Option.map_some]
  · simp only [herror, hfatal, hwarn, hinfo, hdebug, Bool.or_false, Bool.false_eq_true, if_false,
      List.find?_cons, List.find?_nil, Option.map_none]

/-- If the first word of one text is found in another one as well, the first word there is at least as
strong. -/
theorem exists_stronger_of_occursIn {text longer : Text} {keyword : Text × Severity}
    (h : keywords.find? (fun keyword => Text.occursIn keyword.1 text) = some keyword)
    (hlonger : Text.occursIn keyword.1 longer = true) :
    ∃ stronger, keywords.find? (fun keyword => Text.occursIn keyword.1 longer) = some stronger ∧
      keyword.2.ordinal ≤ stronger.2.ordinal := by
  obtain ⟨-, earlier, later, hsplit, -⟩ := List.find?_eq_some_iff_append.mp h
  have hdescending := keywords_descending
  rw [hsplit] at hdescending ⊢
  rw [List.find?_append, List.find?_cons, hlonger]
  cases hearlier : earlier.find? fun keyword => Text.occursIn keyword.1 longer with
  | none => exact ⟨keyword, rfl, Nat.le_refl _⟩
  | some stronger =>
      have hmem := List.mem_of_find?_eq_some hearlier
      exact ⟨stronger, rfl, (List.pairwise_append.mp hdescending).2.2 stronger hmem keyword
        List.mem_cons_self⟩

/-- A text from which a severity is guessed does not lead to a weaker guess when other text is put
in front of it and behind it. -/
theorem mentioned?_append_append {message : Text} {severity : Severity}
    (h : mentioned? message = some severity) (before after : Text) :
    ∃ stronger, mentioned? (before ++ message ++ after) = some stronger ∧
      severity.ordinal ≤ stronger.ordinal := by
  rw [mentioned?_eq_find?] at h
  obtain ⟨keyword, hkeyword, rfl⟩ := Option.map_eq_some_iff.mp h
  have hfound := List.find?_some hkeyword
  obtain ⟨hsigma, hfinal⟩ :=
    sigma_not_mem_of_mem_keywords (List.mem_of_find?_eq_some hkeyword)
  have hstill : Text.occursIn keyword.1 (Text.lower (before ++ message ++ after)) = true := by
    rw [Text.occursIn_iff_isInfix] at hfound ⊢
    exact Text.isInfix_lower_append_append hsigma hfinal hfound before after
  obtain ⟨stronger, hstronger, hle⟩ := exists_stronger_of_occursIn hkeyword hstill
  exact ⟨stronger.2, by rw [mentioned?_eq_find?, hstronger]; rfl, hle⟩

/-- A sigma behind the word changes its lower case with the letter that follows, and a stronger word
stands across the seam. -/
theorem mentioned?_append_append_warning :
    mentioned? "InfoΣ WA".toList = some info ∧
      ∃ stronger, mentioned? ("İ".toList ++ "InfoΣ WA".toList ++ "RNΑ".toList) = some stronger ∧
        info.ordinal ≤ stronger.ordinal := by
  have hinfo : mentioned? "InfoΣ WA".toList = some info := by decide +kernel
  exact ⟨hinfo, mentioned?_append_append hinfo "İ".toList "RNΑ".toList⟩

end LogSieve.Severity
