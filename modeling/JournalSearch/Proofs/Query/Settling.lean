import JournalSearch.Proofs.Query.Pass
import Mathlib.Logic.Function.Iterate

/-!
The loop that repeats passes. A pass meets some choices of one term and starts the same loop on
each of these terms, so that a run is a tree of runs. The relation `Settles` has the finite runs;
every query has exactly one, since the weight falls with each pass that changes something and from
a query to the terms that its passes settle. What a pass keeps, whatever is settled within it, is
kept by the whole loop.
-/
namespace JournalSearch.Query

/-- A pass over the first query runs the loop on the second, the only term of a choice. -/
inductive Nests : Query → Query → Prop
  | only (c : Query) : Nests (anyOf [c]) c
  | ofAnyOf {qs : List Query} {q c : Query} (hqs : ∀ r, qs ≠ [r]) (hq : q ∈ qs) (h : Nests q c) :
      Nests (anyOf qs) c
  | ofAllOf {qs : List Query} {q c : Query} (hq : q ∈ qs) (h : Nests q c) : Nests (allOf qs) c

/-- The loop, started on the first query, ends with the second. Each pass takes the terms of its
choices of one term from runs that end too. -/
inductive Settles : Query → Query → Prop
  | stop {q : Query} {settle : Query → Query}
      (hnested : ∀ c, Nests q c → Settles c (settle c))
      (hsame : reduceWith settle q = q) : Settles q q
  | again {q final : Query} {settle : Query → Query}
      (hnested : ∀ c, Nests q c → Settles c (settle c))
      (hchanged : reduceWith settle q ≠ q)
      (hrest : Settles (reduceWith settle q) final) : Settles q final

theorem Nests.weight_lt {q c : Query} (h : Nests q c) : c.weight < q.weight := by
  induction h with
  | only c =>
    rw [weight_anyOf, weights, weights]
    omega
  | ofAnyOf _ hq _ ih =>
    have hmem := weight_le_weights hq
    rw [weight_anyOf]
    omega
  | @ofAllOf qs q c hq _ ih =>
    have hmem := weight_le_weights hq
    have hle := weights_add_two_le qs
    omega

/-- A pass depends on nothing but the runs that it starts. -/
theorem reduceWith_congr {settle settle' : Query → Query} (q : Query)
    (h : ∀ c, Nests q c → settle c = settle' c) : reduceWith settle q = reduceWith settle' q := by
  induction q with
  | anyOf qs ih =>
    by_cases hsingle : ∃ r, qs = [r]
    · obtain ⟨r, rfl⟩ := hsingle
      exact h r (.only r)
    · push Not at hsingle
      rw [reduceWith_anyOf settle qs hsingle, reduceWith_anyOf settle' qs hsingle]
      congr 1
      apply List.map_congr_left
      intro q hq
      rw [ih q hq fun c hc => h c (.ofAnyOf hsingle hq hc)]
  | allOf qs ih =>
    rw [reduceWith_allOf, reduceWith_allOf]
    congr 1
    apply List.map_congr_left
    intro q hq
    rw [ih q hq fun c hc => h c (.ofAllOf hq hc)]
  | test t => cases t <;> rfl
  | _ => rfl

/-- What leads from each query to its pass, whatever is settled within the pass, leads from each
query to what it simplifies to. -/
theorem rel_simplify {R : Query → Query → Prop} (refl : ∀ q, R q q)
    (trans : ∀ {a b c}, R a b → R b c → R a c)
    (pass : ∀ settle : Query → Query, (∀ c, R c (settle c)) → ∀ q, R q (reduceWith settle q))
    (q : Query) : R q q.simplify := by
  induction hweight : q.weight using Nat.strong_induction_on generalizing q with
  | h n ih =>
    subst hweight
    rw [simplify]
    have hpass := pass (fun c => if c.weight < q.weight then c.simplify else c) (fun c => by
      by_cases hlt : c.weight < q.weight
      · simpa only [if_pos hlt] using ih c.weight hlt c rfl
      · simpa only [if_neg hlt] using refl c) q
    split_ifs with hlt
    · exact trans hpass (ih _ hlt _ rfl)
    · exact hpass

inductive IsDegenerate : Query → Prop
  | nothing : IsDegenerate nothing
  | noChoice : IsDegenerate (anyOf [])
  | openDate : IsDegenerate (test (.date .unbounded))

/-- The second query exposes no degenerate query but those that the first exposes. -/
def ExposesLess (q r : Query) : Prop :=
  ∀ part, IsDegenerate part → Exposes r part → Exposes q part

theorem exposes_of_reduceWith {settle : Query → Query} {part : Query} (hpart : IsDegenerate part)
    (hsettle : ∀ c, Exposes (settle c) part → Exposes c part) {q : Query}
    (h : Exposes (reduceWith settle q) part) : Exposes q part := by
  have heverything : ¬Exposes everything part := by
    rw [exposes_iff_eq _ _ (by simp) (by simp)]
    rintro rfl
    cases hpart
  induction q with
  | anyOf qs ih =>
    have hstep := reduces_anyOf settle qs
    generalize reduceWith settle (anyOf qs) = reduced at hstep h
    cases hstep with
    | keep => exact h
    | noneOfAny => exact absurd h heverything
    | onlyOfAny q => exact .ofAnyOf List.mem_cons_self (hsettle q h)
    | oneOfAny _ q _ hq => exact .ofAnyOf hq (ih q hq h)
    | everythingOfAny => exact absurd h heverything
    | termsOfAny _ hqs =>
      rcases (exposes_anyOf_iff _ _).mp h with rfl | ⟨r, hr, hexposed⟩
      · obtain ⟨q, hq, hne⟩ := hqs.exists_ne nothing
        have hkept : q ∈ qs.filter (· ≠ nothing) := by simpa using ⟨hq, hne⟩
        generalize hterms : (qs.filter (· ≠ nothing)).map (reduceWith settle) = terms at hpart
        cases hpart
        rw [List.map_eq_nil_iff.mp hterms] at hkept
        cases hkept
      · obtain ⟨q, hq, rfl⟩ := List.mem_map.mp hr
        have hmem := List.mem_of_mem_filter hq
        exact .ofAnyOf hmem (ih q hmem hexposed)
  | allOf qs ih =>
    have hstep := reduces_allOf settle qs
    generalize reduceWith settle (allOf qs) = reduced at hstep h
    cases hstep with
    | keep => exact h
    | noneOfAll => exact absurd h heverything
    | oneOfAll _ q hq => exact .ofAllOf hq (ih q hq h)
    | nothingOfAll _ _ hq => exact .ofAllOf hq h
    | datesOfAll spans hqs =>
      obtain ⟨q, hq, -⟩ := hqs
      obtain ⟨span, hspan, rfl⟩ := List.mem_map.mp hq
      obtain rfl := (exposes_iff_eq _ _ (by simp) (by simp)).mp h
      generalize hinter : Calendar.Span.interAll spans = inter at hpart
      cases hpart
      rw [← Calendar.Span.isUnbounded_iff, Calendar.Span.isUnbounded_interAll,
        List.all_eq_true] at hinter
      rw [(Calendar.Span.isUnbounded_iff span).mp (hinter span hspan)] at hq
      exact .ofAllOf hq (.self _)
    | termsOfAll =>
      rcases (exposes_allOf_iff _ _).mp h with rfl | ⟨r, hr, hexposed⟩
      · cases hpart
      · obtain ⟨q, hq, rfl⟩ := List.mem_map.mp hr
        have hmem := (mem_datesToFront_filter.mp hq).1
        exact .ofAllOf hmem (ih q hmem hexposed)
  | test t =>
    have hstep := reduces_reduceWith settle (test t)
    generalize reduceWith settle (test t) = reduced at hstep h
    cases hstep with
    | keep => exact h
    | openDate => exact absurd h heverything
  | _ => exact h

theorem exposesLess_reduceWith {settle : Query → Query} (hsettle : ∀ c, ExposesLess c (settle c))
    (q : Query) : ExposesLess q (reduceWith settle q) :=
  fun part hpart => exposes_of_reduceWith hpart fun c => hsettle c part hpart

/-- The same for queries with a property that depends on the degenerate queries they expose. -/
theorem rel_simplify_of_kept {P : Query → Prop} {R : Query → Query → Prop}
    (keep : ∀ {q r}, ExposesLess q r → P q → P r)
    (refl : ∀ q, R q q) (trans : ∀ {a b c}, R a b → R b c → R a c)
    (pass : ∀ settle : Query → Query, (∀ c, P c → R c (settle c)) →
      ∀ q, P q → R q (reduceWith settle q))
    {q : Query} (hq : P q) : R q q.simplify := by
  have hboth := rel_simplify (R := fun q r => ExposesLess q r ∧ (P q → R q r))
    (fun q => ⟨fun part _ h => h, fun _ => refl q⟩)
    (fun hab hbc => ⟨fun part hpart h => hab.1 part hpart (hbc.1 part hpart h),
      fun ha => trans (hab.2 ha) (hbc.2 (keep hab.1 ha))⟩)
    (fun settle hsettle q => ⟨exposesLess_reduceWith (fun c => (hsettle c).1) q,
      pass settle (fun c => (hsettle c).2) q⟩)
    q
  exact hboth.2 hq

theorem weight_simplify_le (q : Query) : q.simplify.weight ≤ q.weight := by
  apply rel_simplify (R := fun q r => r.weight ≤ q.weight)
  · exact fun q => Nat.le_refl _
  · exact fun hab hbc => Nat.le_trans hbc hab
  · exact fun settle hsettle q => (lightens_reduceWith hsettle q).weight_le

theorem lightens_reduce (q : Query) : Lightens q q.reduce :=
  lightens_reduceWith weight_simplify_le q

/-- The loop: a pass that changes nothing is the last one. -/
theorem simplify_eq (q : Query) : q.simplify = if q.reduce = q then q else q.reduce.simplify := by
  have hreduce : reduceWith (fun c => if c.weight < q.weight then c.simplify else c) q =
      q.reduce := by
    apply reduceWith_congr
    intro c hc
    rw [if_pos hc.weight_lt]
  rw [simplify]
  rw [hreduce]
  by_cases hsame : q.reduce = q
  · rw [if_pos hsame, if_neg (by rw [hsame]; exact Nat.lt_irrefl _), hsame]
  · rw [if_neg hsame, if_pos ((lightens_reduce q).weight_lt hsame)]

theorem simplify_of_reduce_eq {q : Query} (h : q.reduce = q) : q.simplify = q := by
  rw [simplify_eq, if_pos h]

theorem simplify_of_reduce_ne {q : Query} (h : q.reduce ≠ q) :
    q.simplify = q.reduce.simplify := by
  rw [simplify_eq, if_neg h]

/-- A pass beforehand makes no difference. -/
theorem simplify_reduce (q : Query) : q.reduce.simplify = q.simplify := by
  by_cases h : q.reduce = q
  · rw [h]
  · rw [simplify_of_reduce_ne h]

/-- The number of passes that change something is bounded by the weight. -/
theorem exists_iterate_reduce (q : Query) :
    ∃ passes < q.weight, reduce^[passes] q = q.simplify ∧ q.simplify.reduce = q.simplify := by
  induction hweight : q.weight using Nat.strong_induction_on generalizing q with
  | h n ih =>
    subst hweight
    by_cases hsame : q.reduce = q
    · rw [simplify_of_reduce_eq hsame]
      exact ⟨0, weight_pos q, rfl, hsame⟩
    · have hlt := (lightens_reduce q).weight_lt hsame
      obtain ⟨passes, hpasses, hiterate, hfixed⟩ := ih _ hlt q.reduce rfl
      rw [simplify_of_reduce_ne hsame]
      exact ⟨passes + 1, by omega, hiterate, hfixed⟩

/-- A pass changes nothing in what the loop ends with. -/
theorem reduce_simplify (q : Query) : q.simplify.reduce = q.simplify := by
  obtain ⟨-, -, -, hfixed⟩ := exists_iterate_reduce q
  exact hfixed

theorem settles_simplify (q : Query) : Settles q q.simplify := by
  induction hweight : q.weight using Nat.strong_induction_on generalizing q with
  | h n ih =>
    subst hweight
    have hnested : ∀ c, Nests q c → Settles c c.simplify := fun c hc => ih _ hc.weight_lt c rfl
    by_cases hsame : q.reduce = q
    · rw [simplify_of_reduce_eq hsame]
      exact .stop hnested hsame
    · rw [simplify_of_reduce_ne hsame]
      exact .again hnested hsame (ih _ ((lightens_reduce q).weight_lt hsame) _ rfl)

theorem Settles.eq_simplify {q final : Query} (h : Settles q final) : final = q.simplify := by
  induction h with
  | @stop q settle hnested hsame ih =>
    have hreduce : reduceWith settle q = q.reduce := reduceWith_congr q ih
    rw [simplify_of_reduce_eq (hreduce.symm.trans hsame)]
  | @again q final settle hnested hchanged hrest ih ihrest =>
    have hreduce : reduceWith settle q = q.reduce := reduceWith_congr q ih
    rw [hreduce] at hchanged ihrest
    rw [ihrest, simplify_of_reduce_ne hchanged]

/-- The loop ends on every query, in the only way that its passes allow and after fewer passes
than the query weighs, and a second run changes nothing. -/
theorem settles_iff_idempotent (q : Query) :
    (∀ final, Settles q final ↔ final = q.simplify) ∧
      (∃ passes < q.weight, reduce^[passes] q = q.simplify) ∧
      q.simplify.reduce = q.simplify ∧ q.simplify.simplify = q.simplify := by
  refine ⟨fun final => ⟨Settles.eq_simplify, ?_⟩, ?_, reduce_simplify q, ?_⟩
  · rintro rfl
    exact settles_simplify q
  · obtain ⟨passes, hpasses, hiterate, -⟩ := exists_iterate_reduce q
    exact ⟨passes, hpasses, hiterate⟩
  · exact simplify_of_reduce_eq (reduce_simplify q)

end JournalSearch.Query
