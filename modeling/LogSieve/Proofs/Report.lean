import LogSieve.Proofs.Query.Selection
import LogSieve.Proofs.Record.Fields
import LogSieve.Report

/-!
# Reports on the filters that a report offers

A report on a line offers a filter for each field that can be written as one.  Put
together they are a query, and the line can be matched against it once more.  The
line does not always match: `isMatch_filters_iff` says when it does.
-/

namespace LogSieve

variable {stack : Stack}

/-- What a report is made of. -/
theorem Report.ofLine_eq_ok_iff {query line : Text} {level : Option Text} {report : Report} :
    Report.ofLine stack query line level = .ok report ↔
      ∃ record, Record.ofLine stack line none level = .ok record ∧
        report = ⟨(Query.ofText query).holds stack record, record, record.fields.filters,
          Query.ofText query⟩ := by
  constructor
  · intro h
    obtain ⟨record, hrecord, h⟩ := exists_of_bind_eq_ok h
    exact ⟨record, hrecord, (Except.ok.inj h).symm⟩
  · rintro ⟨record, hrecord, rfl⟩
    simp only [Report.ofLine, hrecord]
    rfl

theorem Fields.mem_filters {fields : Fields} {key filter : Text} :
    (key, filter) ∈ fields.filters ↔
      ∃ value, (key, value) ∈ fields ∧ Query.fieldFilter key value = .ok filter := by
  rw [Fields.filters, List.mem_filterMap]
  constructor
  · rintro ⟨⟨name, value⟩, hmem, hfilter⟩
    simp only at hfilter
    split at hfilter
    · rename_i written hwritten
      obtain ⟨rfl, rfl⟩ := Prod.mk.inj (Option.some.inj hfilter)
      exact ⟨value, hmem, hwritten⟩
    · cases hfilter
  · rintro ⟨value, hmem, hfilter⟩
    exact ⟨(key, value), hmem, by simp only [hfilter]⟩

/-- The terms of the filters of a line, put together by spaces. -/
theorem Fields.mem_terms_filters {fields : Fields} {term : Query.Term} :
    term ∈ (Query.ofText (Text.joinWith [' '] (fields.filters.map Prod.snd))).terms ↔
      ∃ key value filter, (key, value) ∈ fields ∧ Query.fieldFilter key value = .ok filter ∧
        term = ⟨false, Query.filterCondition key value⟩ := by
  have hsealed : ∀ text ∈ fields.filters.map Prod.snd, Query.IsSealed text := by
    intro text htext
    obtain ⟨⟨key, filter⟩, hfilter, rfl⟩ := List.mem_map.mp htext
    obtain ⟨value, -, hwritten⟩ := Fields.mem_filters.mp hfilter
    exact Query.isSealed_filter hwritten
  rw [Query.terms_joinWith hsealed, List.mem_filterMap]
  constructor
  · rintro ⟨text, htext, hterm⟩
    obtain ⟨⟨key, filter⟩, hfilter, rfl⟩ := List.mem_map.mp htext
    obtain ⟨value, hmem, hwritten⟩ := Fields.mem_filters.mp hfilter
    rw [Query.ofLexeme?_filter hwritten] at hterm
    exact ⟨key, value, filter, hmem, hwritten, (Option.some.inj hterm).symm⟩
  · rintro ⟨key, value, filter, hmem, hwritten, rfl⟩
    refine ⟨filter, List.mem_map.mpr ⟨(key, filter), ?_, rfl⟩, Query.ofLexeme?_filter hwritten⟩
    exact Fields.mem_filters.mpr ⟨value, hmem, hwritten⟩

/-- A record satisfies the filters of its fields exactly if each of them selects it. -/
theorem Query.holds_filters_iff {record : Record} (h : (record.fields.map Prod.fst).Nodup) :
    (Query.ofText (Text.joinWith [' '] (record.fields.filters.map Prod.snd))).holds stack record =
        true ↔
      ∀ key value filter, (key, value) ∈ record.fields → Query.fieldFilter key value = .ok filter →
        Query.Selects record key value := by
  rw [Query.holds, List.all_eq_true]
  constructor
  · intro hall key value filter hmem hwritten
    have hterm := hall _ (Fields.mem_terms_filters.mpr ⟨key, value, filter, hmem, hwritten, rfl⟩)
    simp only [Query.Term.holds, Bool.bne_false] at hterm
    exact (Query.holds_filterCondition_iff (Association.get?_eq_some_of_mem h hmem)).mp hterm
  · intro hselects term hterm
    obtain ⟨key, value, filter, hmem, hwritten, rfl⟩ := Fields.mem_terms_filters.mp hterm
    simp only [Query.Term.holds, Bool.bne_false]
    exact (Query.holds_filterCondition_iff (Association.get?_eq_some_of_mem h hmem)).mpr
      (hselects key value filter hmem hwritten)

/-- A line on which a report is possible matches the filters that the report offers exactly if each
of them selects its record. -/
theorem Report.isMatch_filters_iff {line : Text} {level : Option Text} {report : Report}
    (h : Report.ofLine stack [] line level = .ok report) :
    ∃ again, Report.ofLine stack (Text.joinWith [' '] (report.filters.map Prod.snd)) line level =
        .ok again ∧
      (again.isMatch = true ↔
        ∀ key value filter, (key, value) ∈ report.record.fields →
          Query.fieldFilter key value = .ok filter → Query.Selects report.record key value) := by
  obtain ⟨record, hrecord, rfl⟩ := Report.ofLine_eq_ok_iff.mp h
  refine ⟨_, Report.ofLine_eq_ok_iff.mpr ⟨record, hrecord, rfl⟩, ?_⟩
  exact Query.holds_filters_iff (Record.nodup_keys_ofLine hrecord)

/-- On the line `k="a⏎b"` the filter for the field is the text `k:a⏎b`, which the line does not
hold. -/
theorem Report.isMatch_filters_of_lineFeed :
    ∃ report again, Report.ofLine .direct [] "k=\"a\nb\"".toList none = .ok report ∧
      Report.ofLine .direct (Text.joinWith [' '] (report.filters.map Prod.snd))
        "k=\"a\nb\"".toList none = .ok again ∧
      again.isMatch = false := by
  have hrecord : Record.ofLine .direct "k=\"a\nb\"".toList none none =
      .ok ⟨"k=\"a\nb\"".toList, none, [("k".toList, "a\nb".toList)], none, none,
        some "k=\"a\nb\"".toList⟩ := rfl
  have hreport : Report.ofLine .direct [] "k=\"a\nb\"".toList none = .ok _ :=
    Report.ofLine_eq_ok_iff.mpr ⟨_, hrecord, rfl⟩
  obtain ⟨again, hagain, hmatch⟩ := Report.isMatch_filters_iff hreport
  refine ⟨_, again, hreport, hagain, ?_⟩
  rw [Bool.eq_false_iff, ne_eq, hmatch]
  intro hall
  have hselects := hall "k".toList "a\nb".toList "k:a\nb".toList (by decide) (by decide)
  exact absurd (hselects.text (by decide)) (by decide)

end LogSieve
