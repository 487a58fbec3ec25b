import JournalSearch.Proofs.Expression.Labels
import JournalSearch.Proofs.Expression.Meaning
import JournalSearch.Proofs.Query.Demands

/-!
Report parameters of a search expression. Only terms on accounts and on descriptions are put into
choices, so the tests of all other fields stand apart and a limit on the depth is enforced. The
parameters that are read off the query found for the expression exclude nothing that it matches.
-/
namespace JournalSearch.Expression

open AccountName (level)
open Calendar (Span)
open Outcome Query

theorem apart_of_isSingle {kind : Test → Bool} {q : Query} (hq : q.IsSingle) :
    Apart kind false q := by
  cases q with
  | everything => exact .everything _
  | nothing => exact .nothing _
  | complement q => exact .complement _ q
  | anyOf => exact hq.elim
  | allOf => exact hq.elim
  | test t => exact .test _ t (by simp)

section
variable {kind : Test → Bool} {qs : List Query}

/-- The terms are put together with those on accounts, and those on descriptions, in choices. -/
theorem apart_combine (haccount : ∀ pattern, kind (.account pattern) = false)
    (hdescription : ∀ pattern, kind (.description pattern) = false)
    (hqs : ∀ q ∈ qs, q.IsSingle) : Apart kind false (combine qs) := by
  refine .allOf _ _ (List.forall_mem_append.mpr ⟨?_, fun q hq => ?_⟩)
  · rw [List.forall_mem_cons, List.forall_mem_singleton]
    constructor
    · refine .anyOf _ _ fun q hq => ?_
      match q, (List.mem_filter.mp hq).2 with
      | .test (.account pattern), _ => exact .test _ _ fun _ => haccount pattern
    · refine .anyOf _ _ fun q hq => ?_
      match q, (List.mem_filter.mp hq).2 with
      | .test (.description pattern), _ => exact .test _ _ fun _ => hdescription pattern
  · exact apart_of_isSingle (hqs q (List.mem_of_mem_filter hq))

theorem enforces_combine {t : Test} (ht : .test t ∈ qs) (haccount : isAccount (.test t) = false)
    (hdescription : isDescription (.test t) = false) : Enforces (combine qs) t := by
  refine (enforces_allOf_iff _ t).mpr ⟨.test t, List.mem_append_right _ ?_, Or.inl (.self _)⟩
  simpa [haccount, hdescription] using ht

end

variable {dating : Dating} {labels : List String} {text : String} {found : Search}

theorem apart_parse {kind : Test → Bool} (hdate : ∀ a b : Span, kind (.date a) = kind (.date b))
    (haccount : ∀ pattern, kind (.account pattern) = false)
    (hdescription : ∀ pattern, kind (.description pattern) = false)
    (h : parse dating labels text = .ok found) : Apart kind false found.query := by
  obtain ⟨terms, hterms, rfl⟩ := parse_eq_ok_iff.mp h
  exact apart_simplify hdate (apart_combine haccount hdescription (isSingle_of_readTerms hterms))

/-- A limit on the depth that a term of the expression sets is enforced. -/
theorem exists_enforces_depth (h : parse dating labels text = .ok found) {token : Token}
    (htoken : token ∈ tokens labels text) {value : String}
    (hvalue : token.value = Field.depth.label ++ value) :
    ∃ limit, Enforces found.query (.depth limit) := by
  obtain ⟨terms, hterms, rfl⟩ := parse_eq_ok_iff.mp h
  obtain ⟨term, hterm, hread⟩ := exists_mem_of_mapM hterms htoken
  rw [hvalue, readTerm_label_eq_ok_iff] at hread
  obtain ⟨limit, -, hlimit⟩ := bind_eq_ok_iff.mp hread
  cases hlimit
  have hmem : .test (.depth limit) ∈ terms.filterMap Term.query? :=
    List.mem_filterMap.mpr ⟨_, hterm, rfl⟩
  exact ⟨limit, enforces_simplify (by simp) (enforces_combine hmem rfl rfl)⟩

/-- All that the query of an expression matches is dated within the spans of the query, as far as
it has dates, and is no deeper than the limit of the query if a term sets one. -/
theorem matches_within_parameters (h : parse dating labels text = .ok found)
    (search : String → String → Bool) :
    (∀ (field : DateField) (t : Transaction),
        Id.run (found.query.matchesTransaction search t) = true →
          (found.query.dateSpan field).contains (t.date field) = true) ∧
      (∀ (field : DateField) (p : LinkedPosting),
        Id.run (found.query.matchesPosting search p) = true →
          ∀ day ∈ p.date? field, (found.query.dateSpan field).contains day = true) ∧
      ((∃ token ∈ tokens labels text, ∃ value, token.value = Field.depth.label ++ value) →
        (∀ account, Id.run (found.query.matchesAccount search account) = true →
          level account ≤ found.query.depthLimit) ∧
        ∀ p : LinkedPosting, Id.run (found.query.matchesPosting search p) = true →
          level p.posting.account ≤ found.query.depthLimit) := by
  have hspans (field : DateField) :
      Apart (fun t => (t.span? field).isSome) false found.query := by
    cases field <;> exact apart_parse (fun _ _ => rfl) (fun _ => rfl) (fun _ => rfl) h
  refine ⟨fun field t hmatch => ?_, fun field p hmatch => ?_, ?_⟩
  · exact contains_dateSpan_of_eval (looksAt_transaction search field t) (hspans field) hmatch _ rfl
  · exact contains_dateSpan_of_eval (looksAt_posting search field p) (hspans field) hmatch
  · rintro ⟨token, htoken, value, hvalue⟩
    obtain ⟨limit, hlimit⟩ := exists_enforces_depth h htoken hvalue
    have hdepths : Apart (fun t => t.depth?.isSome) false found.query :=
      apart_parse (fun _ _ => rfl) (fun _ => rfl) (fun _ => rfl) h
    constructor
    · intro account hmatch
      exact le_depthLimit_of_eval (fun _ => of_decide_eq_true) hdepths hlimit hmatch
    · intro p hmatch
      exact le_depthLimit_of_eval (fun _ => of_decide_eq_true) hdepths hlimit hmatch

/-- Lunch of June 2012, and an expression for food in that year down to the second level. -/
theorem matches_within_parameters_lunch :
    ∃ (text : String) (found : Search),
      text = "food date:2012 depth:2" ∧
      parse (.ofReference ⟨2012, 5, 16, by decide, by decide, by decide⟩) Field.labels text =
        .ok found ∧
      ∃ p : LinkedPosting,
        Id.run (found.query.matchesPosting (fun pattern text => pattern == text) p) = true ∧
          (∀ day ∈ p.date? .actual, (found.query.dateSpan .actual).contains day = true) ∧
          level p.posting.account ≤ found.query.depthLimit := by
  let year : Span :=
    ⟨some ⟨2012, 1, 1, by decide, by decide, by decide⟩,
      some ⟨2013, 1, 1, by decide, by decide, by decide⟩⟩
  let lunch : LinkedPosting :=
    ⟨⟨"food", false, .regular, none⟩,
      some ⟨⟨2012, 6, 20, by decide, by decide, by decide⟩, "lunch", none, false⟩⟩
  obtain ⟨text, htext⟩ : ∃ text : String, text = "food date:2012 depth:2" := ⟨_, rfl⟩
  have htokens : tokens Field.labels text =
      [⟨.plain, "food", 0⟩, ⟨.plain, Field.date.label ++ "2012", 5⟩,
        ⟨.plain, Field.depth.label ++ "2", 15⟩] := by
    rw [htext, tokens, heads_labels]
    cbv
  have hread : readTerms (.ofReference ⟨2012, 5, 16, by decide, by decide, by decide⟩)
      Field.labels text =
      .ok [.query (.test (.account "food")), .query (.test (.date year)),
        .query (.test (.depth 2))] := by
    rw [readTerms_eq_ok_iff, htokens]
    exact .cons (readTerm_of_isPrefixOf?_eq_none rfl) (.cons (readTerm_label_eq_ok_iff.mpr rfl)
      (.cons (readTerm_label_eq_ok_iff.mpr rfl) .nil))
  have hparse := parse_eq_ok_iff.mpr ⟨_, hread, rfl⟩
  have hmatch : Id.run (matchesPosting (fun pattern text => pattern == text)
      (simplify (combine [.test (.account "food"), .test (.date year), .test (.depth 2)]))
      lunch) = true := by
    refine (eval_simplify (joinsSpans_passes _ (.posting lunch)) _).trans ?_
    decide
  obtain ⟨token, htoken, hvalue⟩ : ∃ token ∈ tokens Field.labels text,
      token.value = Field.depth.label ++ "2" := by
    simp [htokens]
  obtain ⟨-, hspans, hlevels⟩ :=
    matches_within_parameters hparse fun pattern text => pattern == text
  have hdepth := (hlevels ⟨token, htoken, "2", hvalue⟩).2 lunch hmatch
  exact ⟨text, _, htext, hparse, lunch, hmatch, hspans .actual lunch hmatch, hdepth⟩

end JournalSearch.Expression
