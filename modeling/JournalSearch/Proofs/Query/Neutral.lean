import JournalSearch.Proofs.Query.Joining

/-!
Terms that make no difference. A neutral term keeps the rules for terms that are all the same, and
for tests for dates that stand alone, from being used in the first pass, so that the terms around it
are rewritten one by one and joined later. Those rules are only shortcuts: whatever the terms are,
going through them first leads to the same query. The rule that goes through the terms drops the
neutral ones, and what is left does not tell whether there were any.
-/
namespace JournalSearch.Query

open Calendar (Span)

theorem simplify_everything : everything.simplify = everything := simplify_of_normal .everything

theorem simplify_nothing : nothing.simplify = nothing := simplify_of_normal .nothing

variable {q : Query} {qs : List Query}

/-- Terms of a conjunction that are all the same are one term. -/
theorem simplify_allOf_of_same (hq : q ∈ qs) (hsame : ∀ r ∈ qs, r = q) :
    (allOf qs).simplify = q.simplify := by
  cases qs with
  | nil => cases hq
  | cons first qs =>
    obtain ⟨rfl, hrest⟩ := List.forall_mem_cons.mp hsame
    rw [← simplify_reduce, reduce, reduceWith_allOf, joinAll_map, if_pos hrest]
    exact simplify_reduce first

/-- Terms of a choice that are all the same are one term. The only term of a choice is simplified in
full at once. -/
theorem simplify_anyOf_of_same (hq : q ∈ qs) (hsame : ∀ r ∈ qs, r = q) :
    (anyOf qs).simplify = q.simplify := by
  match qs with
  | [] => cases hq
  | [r] =>
    obtain rfl := List.mem_singleton.mp hq
    rw [← simplify_reduce, reduce, reduceWith]
    exact simplify_of_normal (normal_simplify q)
  | first :: second :: qs =>
    obtain ⟨rfl, hrest⟩ := List.forall_mem_cons.mp hsame
    rw [← simplify_reduce, reduce, reduceWith_anyOf simplify _ (by simp), joinAny_map, if_pos hrest]
    exact simplify_reduce first

theorem simplify_allOf_of_nothing_mem (h : nothing ∈ qs) : (allOf qs).simplify = nothing := by
  have hstep := reduces_allOf simplify qs
  rw [← simplify_reduce, reduce]
  generalize reduceWith simplify (allOf qs) = reduced at hstep ⊢
  cases hstep with
  | keep _ _ hall => exact absurd rfl (hall qs)
  | noneOfAll => cases h
  | oneOfAll _ q _ hsame =>
    rw [← hsame nothing h]
    exact simplify_nothing
  | nothingOfAll => exact simplify_nothing
  | datesOfAll spans => simp at h
  | termsOfAll _ _ hnothing => exact absurd h hnothing

theorem simplify_anyOf_of_everything_mem (h : everything ∈ qs) :
    (anyOf qs).simplify = everything := by
  have hstep := reduces_anyOf simplify qs
  rw [← simplify_reduce, reduce]
  generalize reduceWith simplify (anyOf qs) = reduced at hstep ⊢
  cases hstep with
  | keep _ hany => exact absurd rfl (hany qs)
  | noneOfAny => cases h
  | onlyOfAny q => rw [← List.mem_singleton.mp h, simplify_everything, simplify_everything]
  | oneOfAny _ q _ _ hsame =>
    rw [← hsame everything h]
    exact simplify_everything
  | everythingOfAny => exact simplify_everything
  | termsOfAny _ _ heverything => exact absurd h heverything

/-! Tests for dates that stand alone -/

theorem reduce_date (span : Span) :
    (test (.date span)).reduce = if span = .unbounded then everything else test (.date span) := by
  simp [reduce, reduceWith]

theorem filter_map_reduce_dates (spans : List Span) :
    ((spans.map fun s => test (.date s)).map reduce).filter (· ≠ everything) =
      (spans.filter (· ≠ .unbounded)).map fun s => test (.date s) := by
  induction spans with
  | nil => rfl
  | cons s spans ih =>
    simp only [List.map_cons, List.filter_cons, reduce_date]
    by_cases hopen : s = .unbounded
    · simpa [hopen] using ih
    · simpa [hopen] using ih

/-- The tests are joined to one for the intersection, also if those for the open span are dropped
before. -/
theorem simplify_allOf_map_reduce_dates {spans : List Span} (h : ∃ s ∈ spans, s ≠ .unbounded) :
    (allOf ((spans.map fun s => test (.date s)).map reduce)).simplify =
      test (.date (.interAll spans)) := by
  have hterm : ∀ q ∈ (spans.map fun s => test (.date s)).map reduce, Normal q ∧ q ≠ nothing := by
    intro q hq
    obtain ⟨s, -, rfl⟩ := by simpa using hq
    rw [reduce_date]
    split_ifs with hopen
    · exact ⟨.everything, by simp⟩
    · exact ⟨.test _ (by simpa using hopen), by simp⟩
  have hkept : (spans.filter (· ≠ .unbounded)).map (fun s => test (.date s)) ≠ [] := by
    obtain ⟨s, hs, hbounded⟩ := h
    refine List.ne_nil_of_mem (List.mem_map_of_mem (a := s) ?_)
    simpa using ⟨hs, hbounded⟩
  have hdates : ∀ q ∈ (spans.filter (· ≠ .unbounded)).map fun s => test (.date s),
      q.isDate = true :=
    List.forall_mem_map.mpr fun s _ => rfl
  have hspans : ((spans.filter (· ≠ .unbounded)).map fun s => test (.date s)).filterMap dateSpan? =
      spans.filter (· ≠ .unbounded) := by
    simp [List.filterMap_map, Function.comp_def, dateSpan?]
  rw [simplify_allOf_of_normal (fun q hq => (hterm q hq).1) (fun hmem => (hterm _ hmem).2 rfl),
    filter_map_reduce_dates, (datesToFront_eq_self_iff _).mpr (datesLead_dates _),
    conjoin_of_dates hkept hdates, hspans, Span.interAll_filter_ne_unbounded]

/-! Shortcuts -/

/-- Going through the terms of a conjunction leads to where the rule leads that is used. -/
theorem simplify_allOf_eq_terms (hnothing : nothing ∉ qs) :
    (allOf qs).simplify =
      (allOf ((datesToFront (qs.filter (· ≠ everything))).map reduce)).simplify := by
  have hstep := reduces_allOf simplify qs
  conv_lhs => rw [← simplify_reduce, reduce]
  generalize reduceWith simplify (allOf qs) = reduced at hstep ⊢
  cases hstep with
  | keep _ _ hall => exact absurd rfl (hall qs)
  | noneOfAll => exact simplify_reduce (allOf [])
  | oneOfAll _ q hq hsame =>
    refine (simplify_reduce q).trans ?_
    by_cases hplain : q = everything
    · rw [hplain] at hsame ⊢
      rw [filter_ne_eq_nil hsame]
      exact simplify_reduce (allOf [])
    · have hkept := mem_datesToFront_filter.mpr ⟨hq, hplain⟩
      rw [simplify_allOf_of_same (List.mem_map_of_mem hkept), simplify_reduce]
      refine List.forall_mem_map.mpr fun r hr => ?_
      rw [hsame r (mem_datesToFront_filter.mp hr).1]
  | nothingOfAll _ _ hmem => exact absurd hmem hnothing
  | datesOfAll spans hvaried =>
    obtain ⟨_, hq, hbounded⟩ := hvaried.exists_ne (test (.date .unbounded))
    obtain ⟨s, hs, rfl⟩ := List.mem_map.mp hq
    have hdates := simplify_allOf_map_reduce_dates ⟨s, hs, fun hopen => hbounded (by rw [hopen])⟩
    have heverything : everything ∉ spans.map fun s => test (.date s) := by simp
    rw [filter_ne_eq_self heverything, (datesToFront_eq_self_iff _).mpr (datesLead_dates spans),
      ← hdates]
    exact simplify_of_normal (normal_simplify _)
  | termsOfAll => rfl

/-- Going through the terms of a choice leads to where the rule leads that is used, if any of them
is left. -/
theorem simplify_anyOf_eq_terms (heverything : everything ∉ qs) (hother : ∃ q ∈ qs, q ≠ nothing) :
    (anyOf qs).simplify = (anyOf ((qs.filter (· ≠ nothing)).map reduce)).simplify := by
  obtain ⟨other, hmem, hne⟩ := hother
  have hkept : other ∈ qs.filter (· ≠ nothing) := by simpa using ⟨hmem, hne⟩
  have hone : (∀ r ∈ qs, r = other) →
      (anyOf qs).simplify = (anyOf ((qs.filter (· ≠ nothing)).map reduce)).simplify := by
    intro hsame
    rw [simplify_anyOf_of_same hmem hsame, simplify_anyOf_of_same (List.mem_map_of_mem hkept),
      simplify_reduce]
    refine List.forall_mem_map.mpr fun r hr => ?_
    rw [hsame r (List.mem_of_mem_filter hr)]
  have hstep := reduces_anyOf simplify qs
  generalize hreduced : reduceWith simplify (anyOf qs) = reduced at hstep
  cases hstep with
  | keep _ hany => exact absurd rfl (hany qs)
  | noneOfAny => cases hmem
  | onlyOfAny q =>
    obtain rfl := List.mem_singleton.mp hmem
    exact hone fun r => List.mem_singleton.mp
  | oneOfAny _ q _ _ hsame =>
    obtain rfl := hsame other hmem
    exact hone hsame
  | everythingOfAny _ _ hq => exact absurd hq heverything
  | termsOfAny =>
    rw [← simplify_reduce, reduce, hreduced]
    rfl

/-! Neutral terms -/

section
variable (xs ys : List Query)

theorem simplify_allOf_insert_everything :
    (allOf (xs ++ everything :: ys)).simplify = (allOf (xs ++ ys)).simplify := by
  have hmem : nothing ∈ xs ++ everything :: ys ↔ nothing ∈ xs ++ ys := by simp
  have hfilter : (xs ++ everything :: ys).filter (· ≠ everything) =
      (xs ++ ys).filter (· ≠ everything) := by
    simp
  by_cases hnothing : nothing ∈ xs ++ ys
  · rw [simplify_allOf_of_nothing_mem hnothing, simplify_allOf_of_nothing_mem (hmem.mpr hnothing)]
  · rw [simplify_allOf_eq_terms hnothing, simplify_allOf_eq_terms (mt hmem.mp hnothing), hfilter]

theorem simplify_anyOf_insert_nothing_of_exists (h : ∃ q ∈ xs ++ ys, q ≠ nothing) :
    (anyOf (xs ++ nothing :: ys)).simplify = (anyOf (xs ++ ys)).simplify := by
  have hmem : everything ∈ xs ++ nothing :: ys ↔ everything ∈ xs ++ ys := by simp
  have hfilter : (xs ++ nothing :: ys).filter (· ≠ nothing) = (xs ++ ys).filter (· ≠ nothing) := by
    simp
  have hmore : ∃ q ∈ xs ++ nothing :: ys, q ≠ nothing := by
    obtain ⟨q, hq, hne⟩ := h
    rw [List.mem_append] at hq
    exact ⟨q, List.mem_append.mpr (hq.imp_right (List.mem_cons_of_mem _)), hne⟩
  by_cases heverything : everything ∈ xs ++ ys
  · rw [simplify_anyOf_of_everything_mem heverything,
      simplify_anyOf_of_everything_mem (hmem.mpr heverything)]
  · rw [simplify_anyOf_eq_terms heverything h,
      simplify_anyOf_eq_terms (mt hmem.mp heverything) hmore, hfilter]

theorem simplify_anyOf_insert_nothing (hne : xs ++ ys ≠ []) :
    (anyOf (xs ++ nothing :: ys)).simplify = (anyOf (xs ++ ys)).simplify := by
  by_cases hother : ∃ q ∈ xs ++ ys, q ≠ nothing
  · exact simplify_anyOf_insert_nothing_of_exists xs ys hother
  · push Not at hother
    have hmore : ∀ q ∈ xs ++ nothing :: ys, q = nothing := by
      simpa [or_imp, forall_and] using hother
    obtain ⟨q, hq⟩ := List.exists_mem_of_ne_nil _ hne
    obtain rfl := hother q hq
    rw [simplify_anyOf_of_same hq hother, simplify_anyOf_of_same (by simp) hmore]

end

/-- A term that matches everything makes no difference in a conjunction, and a term that matches
nothing makes none in a choice, unless it is the only term: nothing matches a choice of nothing, and
a choice without terms is taken for one that demands nothing. -/
theorem simplify_insert_neutral (xs ys : List Query) :
    (allOf (xs ++ everything :: ys)).simplify = (allOf (xs ++ ys)).simplify ∧
      ((anyOf (xs ++ nothing :: ys)).simplify = (anyOf (xs ++ ys)).simplify ↔ xs ++ ys ≠ []) := by
  refine ⟨simplify_allOf_insert_everything xs ys, ?_, simplify_anyOf_insert_nothing xs ys⟩
  intro h hnil
  obtain ⟨rfl, rfl⟩ := List.append_eq_nil_iff.mp hnil
  have hnothing : (anyOf [nothing]).simplify = nothing :=
    (simplify_anyOf_of_same List.mem_cons_self (by simp)).trans simplify_nothing
  have hnone : (anyOf []).simplify = everything :=
    (simplify_reduce (anyOf [])).symm.trans simplify_everything
  rw [List.nil_append, List.nil_append, hnothing, hnone] at h
  cases h

end JournalSearch.Query
