import LogSieve.CommandLine.Outcome
import LogSieve.Proofs.CommandLine.Words
import LogSieve.Proofs.Scan.PlainFile
import LogSieve.Proofs.Scan.Unlimited
import LogSieve.Proofs.Text.Decimal

/-!
# Queries on the command line

A command line of a query and a path lists what a scan of the path finds if the query
is a plain word, and only then (`run_eq_listing_iff`).  Any other query is taken for an
option; the path then stands in the place of the query, and no path is left.  What may
be printed in place of the listing, the help or the terms of the path, does not even
begin like one.
-/

namespace LogSieve.CommandLine

/-- A record under the number of its line, with its level or a dash in brackets and its text. -/
def listingLine (record : Record) : Text :=
  Text.ofInt (record.lineNumber.getD 0) ++ " [".toList ++ record.level.getD ['-'] ++
    "] ".toList ++ record.raw ++ ['\n']

/-- The records, and behind a blank line how many they are. -/
def listing (records : List Record) : Text :=
  records.flatMap listingLine ++ "\nFound ".toList ++ Text.ofNat records.length ++
    " matching lines.\n".toList

/-! ## Arguments -/

/-- What stands for itself is nothing else. -/
theorem eq_of_ofWord_eq_plain {word other : Text}
    (h : Argument.ofWord word = .ok (.plain other)) : word = other := by
  have hdashed : ∀ w : Text, Argument.ofDashed w = .plain other → w = other := by
    intro w hw
    unfold Argument.ofDashed at hw
    split at hw
    · exact Argument.plain.inj hw
    · cases hw
  unfold Argument.ofWord at h
  split at h
  · split at h
    split at h
    · exact hdashed _ (Except.ok.inj h)
    · cases h
    · cases h
  · cases h
  · exact hdashed _ (Except.ok.inj h)
  · exact Argument.plain.inj (Except.ok.inj h)

theorem ne_dashesWord {word : Text} (h : word.head? ≠ some '-') : word ≠ dashesWord := by
  rintro rfl
  exact h rfl

/-- A word before a path is looked at alone. -/
theorem ofWords_query_path {query path : Text} (hpath : path.head? ≠ some '-') :
    Argument.ofWords [query, path] =
      if query = dashesWord then .ok [.dashes, .plain path]
      else (Argument.ofWord query).map fun argument => [argument, .plain path] := by
  have hlast : Argument.ofWords [path] = .ok [.plain path] := by
    rw [Argument.ofWords, if_neg (ne_dashesWord hpath), ofWord_eq_plain_iff.mpr (.inl hpath)]
    rfl
  rw [Argument.ofWords]
  refine ite_congr rfl (fun _ => rfl) fun _ => ?_
  rw [hlast]
  cases Argument.ofWord query <;> rfl

/-! ## Choices -/

/-- The value of an option is neither the query nor the path. -/
theorem Choices.takeValue_eq_ok {choices after : Choices} {switch : Switch} {value : Text}
    (h : choices.takeValue switch value = .ok after) :
    after.query = choices.query ∧ after.path = choices.path ∧
      after.expecting = choices.passOption.expecting := by
  cases switch with
  | help | explain | bare => cases h
  | limit =>
      simp only [Choices.takeValue] at h
      split at h
      · obtain rfl := Except.ok.inj h
        exact ⟨rfl, rfl, rfl⟩
      · cases h
  | since | till =>
      obtain ⟨bound, -, hbound⟩ := exists_of_bind_eq_ok h
      obtain rfl := Except.ok.inj hbound
      exact ⟨rfl, rfl, rfl⟩

/-- Before a query has been read, the next word is no path. -/
theorem Choices.takeWord_of_expecting_query {choices : Choices} (h : choices.expecting = .query)
    (word : Text) :
    (choices.takeWord word).query = some word ∧ (choices.takeWord word).path = choices.path := by
  rw [Choices.takeWord, h]
  exact ⟨rfl, rfl⟩

/-- A value that is attached to its option is read before the rest. -/
theorem Choices.read_attached (choices : Choices) (switch : Switch) (value : Text)
    (rest : List Argument) :
    choices.read (.option switch (some value) :: rest) =
      choices.takeValue switch value >>= fun after => after.read rest := by
  rw [Choices.read]
  cases choices.takeValue switch value <;> rfl

/-- Where no plain word stands before the path, the path is read as the query or as a value. -/
theorem Choices.read_of_not_plain {argument : Argument} (h : ∀ word, argument ≠ .plain word)
    {path : Text} {choices : Choices}
    (hread : Choices.start.read [argument, .plain path] = .ok choices) :
    choices.path = none ∧ ∀ query ∈ choices.query, query = path := by
  have hquery : ∀ before : Choices, before.expecting = .query → before.path = none →
      (before.takeWord path).path = none ∧
        ∀ query ∈ (before.takeWord path).query, query = path := by
    intro before hexpecting hnone
    obtain ⟨hword, hpath⟩ := Choices.takeWord_of_expecting_query hexpecting path
    refine ⟨hpath.trans hnone, fun query hmem => ?_⟩
    rw [hword] at hmem
    exact (Option.some.inj hmem).symm
  cases argument with
  | plain word => exact absurd rfl (h word)
  | dashes =>
      obtain rfl := Except.ok.inj hread
      exact hquery _ rfl rfl
  | unknown word =>
      obtain rfl := Except.ok.inj hread
      exact hquery _ rfl rfl
  | option switch value =>
      cases value with
      | some value =>
          rw [Choices.read_attached] at hread
          obtain ⟨after, hafter, hrest⟩ := exists_of_bind_eq_ok hread
          obtain rfl := Except.ok.inj hrest
          obtain ⟨-, hnone, hexpecting⟩ := Choices.takeValue_eq_ok hafter
          exact hquery after hexpecting hnone
      | none =>
          cases switch with
          | help =>
              obtain rfl := Except.ok.inj hread
              exact ⟨rfl, fun _ hmem => nomatch hmem⟩
          | explain | bare =>
              obtain rfl := Except.ok.inj hread
              exact hquery _ rfl rfl
          | limit | since | till =>
              simp only [Choices.read] at hread
              split at hread
              · rename_i after hafter
                obtain rfl := Except.ok.inj hread
                obtain ⟨hquery, hnone, -⟩ := Choices.takeValue_eq_ok hafter
                exact ⟨hnone, fun _ hmem => nomatch hquery ▸ hmem⟩
              · cases hread

/-- Without a path there is nothing to be listed. -/
theorem Choices.request_of_path_eq_none {choices : Choices} (h : choices.path = none)
    {request : Request} (hrequest : choices.request = .ok request) :
    request = .help ∨ ∃ query ∈ choices.query, request = .explain query := by
  unfold Choices.request at hrequest
  split at hrequest
  · exact .inl (Except.ok.inj hrequest).symm
  · split at hrequest
    · cases hrequest
    · rename_i query hquery
      rw [h] at hrequest
      split at hrequest
      · cases hrequest
      · split at hrequest
        · exact .inr ⟨query, hquery, (Except.ok.inj hrequest).symm⟩
        · cases hrequest

/-! ## What is printed -/

/-- Records with numbers from one on. -/
def AreNumbered (records : List Record) : Prop :=
  ∀ record ∈ records, ∃ number, 0 < number ∧ record.lineNumber = some (Int.ofNat number)

theorem recordLine_eq_listingLine {record : Record} {number : Int}
    (h : record.lineNumber = some number) : recordLine false record = listingLine record := by
  simp [recordLine, listingLine, h]

theorem recordLines_eq_listing {records : List Record} (h : AreNumbered records) :
    recordLines false records = listing records := by
  have hlines : records.map (recordLine false) = records.map listingLine := by
    refine List.map_congr_left fun record hrecord => ?_
    obtain ⟨number, -, hnumber⟩ := h record hrecord
    exact recordLine_eq_listingLine hnumber
  rw [recordLines, listing, hlines, List.flatMap_def]

/-- A listing begins with the number of a line or with the blank line. -/
theorem exists_head?_listing {records : List Record} (h : AreNumbered records) :
    ∃ c, (listing records).head? = some c ∧
      (c = '\n' ∨ Text.isAsciiDigit c = true ∧ c ≠ '0') := by
  cases records with
  | nil => exact ⟨'\n', rfl, .inl rfl⟩
  | cons record rest =>
      obtain ⟨number, hpositive, hnumber⟩ := h record List.mem_cons_self
      obtain ⟨c, digits, hdigits, hdigit⟩ := Text.exists_ofNat_eq_cons number
      have hzero := Text.head?_ofNat_ne hpositive
      rw [hdigits] at hzero
      refine ⟨c, ?_, .inr ⟨hdigit, fun heq => hzero (congrArg some heq)⟩⟩
      have hint : Text.ofInt (Int.ofNat number) = c :: digits := by
        rw [← hdigits]
        exact if_neg (Int.not_lt.mpr (Int.natCast_nonneg number))
      rw [listing, List.flatMap_cons, listingLine, hnumber, Option.getD_some, hint]
      rfl

/-- What is told about a query begins with the number of its first term or with a bracket. -/
theorem head?_explanation (query : Query) :
    (explanation query).head? = some '(' ∨ (explanation query).head? = some '0' := by
  rw [explanation]
  cases query.badges with
  | nil => exact .inl rfl
  | cons badge rest => exact .inr rfl

/-- The help is no listing, and neither is what is told about a query. -/
theorem listing_ne {records : List Record} (h : AreNumbered records) :
    listing records ≠ helpText ∧ ∀ query, listing records ≠ explanation query := by
  obtain ⟨c, hhead, hc⟩ := exists_head?_listing h
  have hother : ∀ mark, mark = 'u' ∨ mark = '(' ∨ mark = '0' → ∀ text : Text,
      text.head? = some mark → listing records ≠ text := by
    rintro mark hmark text htext rfl
    obtain rfl : c = mark := Option.some.inj (hhead.symm.trans htext)
    revert hc
    rcases hmark with rfl | rfl | rfl <;> decide
  have hhelp : helpText.head? = some 'u' := by decide +kernel
  refine ⟨hother 'u' (by decide) helpText hhelp, fun query => ?_⟩
  rcases head?_explanation query with hbracket | hzero
  · exact hother '(' (by decide) _ hbracket
  · exact hother '0' (by decide) _ hzero

/-! ## Runs -/

section

variable {host : Host} {query path : Text} {records : List Record}

/-- The records of a scan of a whole file are numbered. -/
theorem areNumbered_of_run
    (hfound : Scan.run host (.ofFile path (Query.ofText query) .always none) = .ok records) :
    AreNumbered records := by
  have hkept := Scan.run_eq_map_filter host
    (.ofFile path (Query.ofText query) .always none) Window.always
  obtain ⟨all, hall, rfl⟩ := exists_of_map_eq_ok (hkept.symm.trans hfound)
  obtain ⟨lines, hlines⟩ := Scan.exists_lines_of_recordsOfFile hall
  intro record hrecord
  obtain ⟨number, hle, hnumber⟩ :=
    Scan.exists_lineNumber_of_mem_recordsFrom hlines (List.mem_of_mem_filter hrecord)
  exact ⟨number, hle, hnumber⟩

/-- A plain word asks for the lines of the path. -/
theorem ofWords_of_isPlain (hpath : path.head? ≠ some '-') (h : IsPlain query) :
    Request.ofWords [query, path] = .ok (.lines query path none none none false) := by
  have hword := ofWord_eq_plain_iff.mpr h
  have hquery : query ≠ dashesWord := by
    rintro rfl
    cases hword
  have harguments : Argument.ofWords [query, path] = .ok [.plain query, .plain path] := by
    rw [ofWords_query_path hpath, if_neg hquery, hword]
    rfl
  rw [Request.ofWords, harguments]
  show Choices.request ((Choices.start.takeWord query).takeWord path) = _
  have hsecond : (Choices.start.takeWord query).takeWord path =
      { Choices.start with query := some query, path := some path, expecting := .dashes } := by
    simp [Choices.takeWord, Choices.start, ne_dashesWord hpath]
  rw [hsecond]
  rfl

/-- Another word leaves nothing to be asked for but the help and the terms of the path. -/
theorem ofWords_of_not_isPlain (hpath : path.head? ≠ some '-') (h : ¬ IsPlain query)
    {request : Request} (hrequest : Request.ofWords [query, path] = .ok request) :
    request = .help ∨ request = .explain path := by
  obtain ⟨arguments, hmapped, hrest⟩ := exists_of_bind_eq_ok hrequest
  obtain ⟨choices, hread, hchosen⟩ := exists_of_bind_eq_ok hrest
  have hwords := ok_of_mapError_eq_ok hmapped
  rw [ofWords_query_path hpath] at hwords
  obtain ⟨argument, hargument, rfl⟩ :
      ∃ argument, (∀ word, argument ≠ .plain word) ∧ arguments = [argument, .plain path] := by
    split at hwords
    · refine ⟨.dashes, ?_, (Except.ok.inj hwords).symm⟩
      rintro word ⟨⟩
    · obtain ⟨argument, hword, rfl⟩ := exists_of_map_eq_ok hwords
      refine ⟨argument, ?_, rfl⟩
      rintro word rfl
      obtain rfl := eq_of_ofWord_eq_plain hword
      exact h (ofWord_eq_plain_iff.mp hword)
  obtain ⟨hnone, hquery⟩ := Choices.read_of_not_plain hargument hread
  rcases Choices.request_of_path_eq_none hnone hchosen with rfl | ⟨other, hother, rfl⟩
  · exact .inl rfl
  · exact .inr (congrArg Request.explain (hquery other hother))

/-- Without options the whole file is scanned, and the lines are shown with their text. -/
theorem run_lines (host : Host) (query path : Text) :
    Request.run host (.lines query path none none none false) =
      match Scan.run host (.ofFile path (Query.ofText query) .always none) with
      | .ok records => .ok (.served (recordLines false records))
      | .error fault => ofScanFault fault := rfl

/-- The command line lists what a scan finds if and only if the query is a plain word. -/
theorem run_eq_listing_iff (hpath : path.head? ≠ some '-')
    (hfound : Scan.run host (.ofFile path (Query.ofText query) .always none) = .ok records) :
    (∃ complaint, run host [query, path] = .ok ⟨0, listing records, complaint⟩) ↔
      IsPlain query := by
  have hnumbered := areNumbered_of_run hfound
  constructor
  · rintro ⟨complaint, hrun⟩
    by_contra hplain
    -- neither what is printed nor the exit code of another request is that of a listing
    unfold run at hrun
    split at hrun
    · rename_i request hrequest
      rcases ofWords_of_not_isPlain hpath hplain hrequest with rfl | rfl
      · exact (listing_ne hnumbered).1 (congrArg Outcome.output (Except.ok.inj hrun)).symm
      · exact (listing_ne hnumbered).2 _ (congrArg Outcome.output (Except.ok.inj hrun)).symm
    · cases hrun
    · cases congrArg Outcome.code (Except.ok.inj hrun)
  · intro hplain
    refine ⟨[], ?_⟩
    rw [run, ofWords_of_isPlain hpath hplain]
    show Request.run host _ = _
    rw [run_lines, hfound, ← recordLines_eq_listing hnumbered]
    rfl

end

/-- A host with a file of a single line. -/
def readyHost : Host := .withFile ("ready\n".toList.flatMap Encoding.utf8Bytes)

/-- The record of that line. -/
def readyRecord : Record := ⟨"ready".toList, none, [], none, some 1, some "ready".toList⟩

/-- Both queries find the line; the one with a space in it is listed, the other one is an option
that does not exist. -/
theorem run_eq_listing_of_readyFile :
    (∃ complaint, run readyHost ["-\"health check\"".toList, ['a']] =
        .ok ⟨0, listing [readyRecord], complaint⟩) ∧
      ¬ ∃ complaint, run readyHost ["-debug".toList, ['a']] =
        .ok ⟨0, listing [readyRecord], complaint⟩ := by
  have hpath : (['a'] : Text).head? ≠ some '-' := by decide
  have hspaced : Scan.run readyHost
      (.ofFile ['a'] (Query.ofText "-\"health check\"".toList) .always none) =
        .ok [readyRecord] := by
    decide +kernel
  have hbare : Scan.run readyHost (.ofFile ['a'] (Query.ofText "-debug".toList) .always none) =
      .ok [readyRecord] := by
    decide +kernel
  constructor
  · exact (run_eq_listing_iff hpath hspaced).mpr (by decide)
  · exact (run_eq_listing_iff hpath hbare).not.mpr (by decide)

end LogSieve.CommandLine
