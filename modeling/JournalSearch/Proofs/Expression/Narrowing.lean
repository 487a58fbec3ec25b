import JournalSearch.Proofs.Expression.Continuation
import JournalSearch.Proofs.Expression.Labels
import JournalSearch.Proofs.Expression.Outline
import JournalSearch.Proofs.Query.Collecting

/-!
The span of dates of an expression, and what a further term on accounts does to it. Tests for dates
that stand alone are joined to one test for the days that all of them have; beside other terms they
are kept apart, and the span covers them all. So a term on accounts that is added to tests for
different dates widens the span, and no other span is changed by one.
-/
namespace JournalSearch

open Calendar (Span)

namespace Query

theorem collectAll_dates {dates : List Query} (h : ∀ q ∈ dates, q.isDate = true) :
    collectAll (Test.span? .actual) dates = dates.filterMap dateSpan? := by
  induction dates with
  | nil => rfl
  | cons q dates ih =>
    obtain ⟨hq, hrest⟩ := List.forall_mem_cons.mp h
    obtain ⟨span, rfl⟩ := isDate_iff.mp hq
    rw [collectAll, ih hrest]
    rfl

/-- Tests for dates alone have the days that all of them have. -/
theorem dateSpan_conjoin_dates {dates : List Query} (h : ∀ q ∈ dates, q.isDate = true) :
    (conjoin dates).dateSpan .actual = .interAll (dates.filterMap dateSpan?) := by
  by_cases hnil : dates = []
  · rw [hnil]
    rfl
  · rw [conjoin_of_dates hnil h]
    rfl

/-- Tests for dates beside other terms have the hull of their spans. -/
theorem dateSpan_conjoin_append {dates others : List Query} (hdates : ∀ q ∈ dates, q.isDate = true)
    (hothers : ∀ q ∈ others, q.isDate = false) (hnone : ∀ q ∈ others, q.dateSpans .actual = [])
    (hne : others ≠ []) :
    (conjoin (dates ++ others)).dateSpan .actual = .hullAll (dates.filterMap dateSpan?) := by
  obtain ⟨other, hother⟩ := List.exists_mem_of_ne_nil others hne
  have hall : other ∈ dates ++ others := List.mem_append_right _ hother
  have hspans : collectAll (Test.span? .actual) (dates ++ others) = dates.filterMap dateSpan? := by
    rw [collectAll_append, collectAll_dates hdates, collectAll_eq_nil hnone, List.append_nil]
  by_cases hsame : ∀ q ∈ dates ++ others, q = other
  · have hnil : dates = [] := by
      rw [List.eq_nil_iff_forall_not_mem]
      intro q hq
      have hkind := hdates q hq
      rw [hsame q (List.mem_append_left _ hq), hothers other hother] at hkind
      cases hkind
    rw [conjoin_of_same hall hsame, dateSpan, hnone other hother, hnil]
    rfl
  · push Not at hsame
    obtain ⟨q, hq, hdiffers⟩ := hsame
    rw [conjoin_of_varied ⟨q, hq, other, hall, hdiffers⟩ ⟨other, hall, hothers other hother⟩,
      dateSpan, dateSpans, collect, hspans]

end Query

namespace Expression

open Outcome Query

/-- Nothing is asked for but dates, and not the same dates by all terms. -/
def AsksForSeveralDates (qs : List Query) : Prop :=
  (∀ q ∈ qs, q = .everything ∨ q.isDate = true) ∧ Varied (boundedDates qs)

theorem toList_choose?_eq_nil_iff {qs : List Query} : (choose? qs).toList = [] ↔ qs = [] := by
  cases qs <;> simp [choose?]

/-- Only dates are asked for if nothing is left beside the tests for dates. -/
theorem undated_eq_nil_iff {qs : List Query} :
    undated qs = [] ↔ ∀ q ∈ qs, q = .everything ∨ q.isDate = true := by
  simp only [undated, otherTerms, List.append_eq_nil_iff, toList_choose?_eq_nil_iff,
    List.filter_eq_nil_iff]
  constructor
  · rintro ⟨⟨haccounts, hdescriptions⟩, hothers⟩ q hq
    have hkind := hothers q hq
    simp only [haccounts q hq, hdescriptions q hq, Bool.false_or, Bool.not_eq_true',
      Bool.not_eq_false, Bool.or_eq_true, decide_eq_true_eq] at hkind
    exact hkind.symm
  · intro h
    refine ⟨⟨fun q hq => ?_, fun q hq => ?_⟩, fun q hq => ?_⟩
    all_goals
      rcases h q hq with rfl | hdate
      · simp [isAccount, isDescription]
      · obtain ⟨span, rfl⟩ := isDate_iff.mp hdate
        simp [isAccount, isDescription, isDate]

theorem dateSpans_of_isSingle {q : Query} (hq : q.IsSingle) (hdate : q.isDate = false) :
    q.dateSpans .actual = [] := by
  cases q with
  | test t =>
    cases t with
    | date span => cases hdate
    | _ => rfl
  | anyOf | allOf => exact hq.elim
  | _ => rfl

theorem dateSpans_of_mem_undated {qs : List Query} (hqs : ∀ q ∈ qs, q.IsSingle) {q : Query}
    (hq : q ∈ undated qs) : q.dateSpans .actual = [] := by
  have hdate := isDate_of_mem_undated hq
  rcases mem_undated_iff.mp hq with haccount | hdescription | hother
  · refine collect_of_choose? (fun r hr => ?_) haccount
    obtain ⟨pattern, rfl⟩ := isAccount_iff.mp hr
    rfl
  · refine collect_of_choose? (fun r hr => ?_) hdescription
    obtain ⟨pattern, rfl⟩ := isDescription_iff.mp hr
    rfl
  · exact dateSpans_of_isSingle (hqs q (List.mem_of_mem_filter hother)) hdate

/-- The span of what is found for terms. -/
theorem dateSpan_outline {qs : List Query} (hqs : ∀ q ∈ qs, q.IsSingle) :
    (outline qs).dateSpan .actual =
      if .nothing ∈ qs then .unbounded
      else if undated qs = [] then .interAll ((boundedDates qs).filterMap dateSpan?)
      else .hullAll ((boundedDates qs).filterMap dateSpan?) := by
  rw [outline]
  split_ifs with hnothing hnil
  · rfl
  · rw [hnil, List.append_nil]
    exact dateSpan_conjoin_dates fun q => isDate_of_mem_boundedDates
  · exact dateSpan_conjoin_append (fun q => isDate_of_mem_boundedDates)
      (fun q => isDate_of_mem_undated) (fun q => dateSpans_of_mem_undated hqs) hnil

theorem varied_boundedDates_iff (qs : List Query) :
    Varied (boundedDates qs) ↔
      ¬∀ s ∈ (boundedDates qs).filterMap dateSpan?, ∀ t ∈ (boundedDates qs).filterMap dateSpan?,
        s = t := by
  have hdate : ∀ q ∈ boundedDates qs, ∃ span, q = .test (.date span) :=
    fun q hq => isDate_iff.mp (isDate_of_mem_boundedDates hq)
  constructor
  · rintro ⟨q, hq, r, hr, hne⟩ hsame
    obtain ⟨s, rfl⟩ := hdate q hq
    obtain ⟨t, rfl⟩ := hdate r hr
    have hst : s = t := hsame s (List.mem_filterMap.mpr ⟨_, hq, rfl⟩) t
      (List.mem_filterMap.mpr ⟨_, hr, rfl⟩)
    exact hne (by rw [hst])
  · intro hdiffer
    push Not at hdiffer
    obtain ⟨s, hs, t, ht, hne⟩ := hdiffer
    obtain ⟨q, hq, hqs⟩ := List.mem_filterMap.mp hs
    obtain ⟨r, hr, hrt⟩ := List.mem_filterMap.mp ht
    refine ⟨q, hq, r, hr, ?_⟩
    rintro rfl
    exact hne (Option.some.inj (hqs.symm.trans hrt))

section
variable (pattern : String) (qs : List Query)

theorem boundedDates_append_account :
    boundedDates (qs ++ [.test (.account pattern)]) = boundedDates qs := by
  simp [boundedDates, isDate]

theorem undated_append_account_ne_nil : undated (qs ++ [.test (.account pattern)]) ≠ [] := by
  intro hnil
  have hlast : Query.test (.account pattern) ∈ qs ++ [.test (.account pattern)] := by simp
  have hkind := undated_eq_nil_iff.mp hnil _ hlast
  simp [isDate] at hkind

end

/-- A further term on accounts keeps the span unless several dates stood alone. -/
theorem dateSpan_outline_append_account_iff {qs : List Query} (hqs : ∀ q ∈ qs, q.IsSingle)
    (pattern : String) :
    (outline qs).dateSpan .actual =
        (outline (qs ++ [.test (.account pattern)])).dateSpan .actual ↔
      ¬AsksForSeveralDates qs := by
  have hsingle : ∀ q ∈ qs ++ [.test (.account pattern)], q.IsSingle := by
    rw [List.forall_mem_append, List.forall_mem_singleton]
    exact ⟨hqs, trivial⟩
  have hmem : .nothing ∈ qs ++ [.test (.account pattern)] ↔ .nothing ∈ qs := by simp
  rw [dateSpan_outline hqs, dateSpan_outline hsingle, boundedDates_append_account,
    if_neg (undated_append_account_ne_nil pattern qs), AsksForSeveralDates, ← undated_eq_nil_iff]
  simp only [hmem]
  split_ifs with hnothing hnil
  · have hne : undated qs ≠ [] := by
      intro hnil
      have hkind := undated_eq_nil_iff.mp hnil _ hnothing
      simp [isDate] at hkind
    simp [hne]
  · rw [Span.interAll_eq_hullAll_iff, varied_boundedDates_iff]
    simp [hnil]
  · simp [hnil]

/-- The terms of a text with a further term on accounts. -/
theorem readTerms_append_account {dating : Dating} {text : String} {terms : List Term}
    (h : readTerms dating Field.labels text = .ok terms) (pattern : String) (hne : pattern ≠ "")
    (hpattern : ∀ c ∈ pattern.toList, isQuote c = false ∧ isSeparator c = false) :
    readTerms dating Field.labels (text ++ " acct:" ++ pattern) =
      .ok (terms ++ [.query (.test (.account pattern))]) := by
  let reads : String → Term → Prop := fun value term => readTerm dating value = .ok term
  have hterm : ∀ c ∈ ("acct:" ++ pattern).toList, isQuote c = false ∧ isSeparator c = false := by
    have hlabel : ∀ c ∈ "acct:".toList, isQuote c = false ∧ isSeparator c = false := by
      simp [isQuote, isSeparator]
    rw [String.toList_append, List.forall_mem_append]
    exact ⟨hlabel, hpattern⟩
  have hvalues := values_tokens_append text (by simp [hne]) hterm
  have htext : text ++ " " ++ ("acct:" ++ pattern) = text ++ " acct:" ++ pattern := by
    have hlabel : " acct:" = " " ++ "acct:" := rfl
    simp only [hlabel, String.append_assoc]
  have hlast : reads ("acct:" ++ pattern) (.query (.test (.account pattern))) :=
    readTerm_label .account pattern
  have hfirst : List.Forall₂ reads ((tokens Field.labels text).map Token.value) terms :=
    List.forall₂_map_left_iff.mpr (readTerms_eq_ok_iff.mp h)
  have hall : List.Forall₂ reads
      ((tokens Field.labels text).map Token.value ++ ["acct:" ++ pattern])
      (terms ++ [.query (.test (.account pattern))]) :=
    List.rel_append hfirst (.cons hlast .nil)
  rw [← hvalues, htext] at hall
  exact readTerms_eq_ok_iff.mpr (List.forall₂_map_left_iff.mp hall)

/-- A further term on accounts keeps the span of an expression, unless the expression asks for
several dates and for nothing else. The span of these is what they share, and beside a term on
accounts it is what they cover. -/
theorem dateSpan_parse_append_account {dating : Dating} {text pattern : String} {found : Search}
    (h : parse dating Field.labels text = .ok found) (hne : pattern ≠ "")
    (hpattern : ∀ c ∈ pattern.toList, isQuote c = false ∧ isSeparator c = false) :
    ∃ terms : List Term,
      List.Forall₂ (fun token term => readTerm dating token.value = .ok term)
        (tokens Field.labels text) terms ∧
      ∃ narrowed : Search,
        parse dating Field.labels (text ++ " acct:" ++ pattern) = .ok narrowed ∧
        (found.query.dateSpan .actual = narrowed.query.dateSpan .actual ↔
          ¬AsksForSeveralDates (terms.filterMap Term.query?)) := by
  obtain ⟨terms, hterms, rfl⟩ := exists_outline_of_parse h
  have hmore := readTerms_append_account hterms pattern hne hpattern
  refine ⟨terms, readTerms_eq_ok_iff.mp hterms, _, parse_of_readTerms hmore, ?_⟩
  rw [List.filterMap_append]
  exact dateSpan_outline_append_account_iff (isSingle_of_readTerms hterms) pattern

/-- The year 2008 beside a description. -/
theorem dateSpan_parse_year_append_account :
    ∃ (dating : Dating) (text : String) (found : Search),
      dating = .ofReference ⟨2012, 5, 16, by decide, by decide, by decide⟩ ∧
      text = "date:2008 desc:rent" ∧ parse dating Field.labels text = .ok found ∧
      ∃ terms : List Term,
        List.Forall₂ (fun token term => readTerm dating token.value = .ok term)
          (tokens Field.labels text) terms ∧
        ∃ narrowed : Search,
          parse dating Field.labels (text ++ " acct:" ++ "cash") = .ok narrowed ∧
          (found.query.dateSpan .actual = narrowed.query.dateSpan .actual ↔
            ¬AsksForSeveralDates (terms.filterMap Term.query?)) := by
  have htokens : tokens Field.labels "date:2008 desc:rent" =
      [⟨.plain, Field.date.label ++ "2008", 0⟩, ⟨.plain, Field.description.label ++ "rent", 10⟩] := by
    rw [tokens, heads_labels]
    cbv
  have hread : readTerms (.ofReference ⟨2012, 5, 16, by decide, by decide, by decide⟩)
      Field.labels "date:2008 desc:rent" =
      .ok [.query (.test (.date ⟨some ⟨2008, 1, 1, by decide, by decide, by decide⟩,
          some ⟨2009, 1, 1, by decide, by decide, by decide⟩⟩)),
        .query (.test (.description "rent"))] := by
    rw [readTerms_eq_ok_iff, htokens]
    exact .cons (readTerm_label_eq_ok_iff.mpr rfl)
      (.cons (readTerm_label_eq_ok_iff.mpr rfl) .nil)
  have hparse := parse_of_readTerms hread
  have hpattern : ∀ c ∈ "cash".toList, isQuote c = false ∧ isSeparator c = false := by
    simp [isQuote, isSeparator]
  exact ⟨_, _, _, rfl, rfl, hparse, dateSpan_parse_append_account hparse (by decide) hpattern⟩

/-- No day is in both years, so the span of the two is empty; with a term on accounts it is the two
years. -/
theorem dateSpan_parse_two_years :
    ∃ (dating : Dating) (text : String) (found narrowed : Search),
      dating = .ofReference ⟨2012, 5, 16, by decide, by decide, by decide⟩ ∧
      text = "date:2008 date:2009" ∧ parse dating Field.labels text = .ok found ∧
      parse dating Field.labels (text ++ " acct:" ++ "cash") = .ok narrowed ∧
      found.query.dateSpan .actual =
        ⟨some ⟨2009, 1, 1, by decide, by decide, by decide⟩,
          some ⟨2009, 1, 1, by decide, by decide, by decide⟩⟩ ∧
      narrowed.query.dateSpan .actual =
        ⟨some ⟨2008, 1, 1, by decide, by decide, by decide⟩,
          some ⟨2010, 1, 1, by decide, by decide, by decide⟩⟩ ∧
      found.query.dateSpan .actual ≠ narrowed.query.dateSpan .actual := by
  have htokens : tokens Field.labels "date:2008 date:2009" =
      [⟨.plain, Field.date.label ++ "2008", 0⟩, ⟨.plain, Field.date.label ++ "2009", 10⟩] := by
    rw [tokens, heads_labels]
    cbv
  have hread : readTerms (.ofReference ⟨2012, 5, 16, by decide, by decide, by decide⟩)
      Field.labels "date:2008 date:2009" =
      .ok [.query (.test (.date ⟨some ⟨2008, 1, 1, by decide, by decide, by decide⟩,
          some ⟨2009, 1, 1, by decide, by decide, by decide⟩⟩)),
        .query (.test (.date ⟨some ⟨2009, 1, 1, by decide, by decide, by decide⟩,
          some ⟨2010, 1, 1, by decide, by decide, by decide⟩⟩))] := by
    rw [readTerms_eq_ok_iff, htokens]
    exact .cons (readTerm_label_eq_ok_iff.mpr rfl)
      (.cons (readTerm_label_eq_ok_iff.mpr rfl) .nil)
  have hpattern : ∀ c ∈ "cash".toList, isQuote c = false ∧ isSeparator c = false := by
    simp [isQuote, isSeparator]
  have hmore := readTerms_append_account hread "cash" (by decide) hpattern
  refine ⟨_, _, _, _, rfl, rfl, parse_of_readTerms hread, parse_of_readTerms hmore, ?_⟩
  decide

end Expression

end JournalSearch
