import JournalSearch.Proofs.Query.Dates
import JournalSearch.Proofs.Query.Settling

/-!
Tests that a query demands. A conjunction demands what its terms demand, and all that a query
demands holds whenever the query does. A choice demands nothing of its terms, so a parameter that
is read off a test under a choice may exclude what the query matches. The invariant is that no test
of a kind stands under a choice: a pass keeps it, as a pass makes no choices, and if it holds, all
tests of the kind that the query exposes are demanded.
-/
namespace JournalSearch.Query

open Calendar (Date Span)

inductive Demands : Query → Query → Prop
  | self (q : Query) : Demands q q
  | ofAllOf {qs : List Query} {q part : Query} (hq : q ∈ qs) (h : Demands q part) :
      Demands (allOf qs) part

theorem Demands.exposes {q part : Query} (h : Demands q part) : Exposes q part := by
  induction h with
  | self q => exact .self q
  | ofAllOf hq _ ih => exact .ofAllOf hq ih

theorem Demands.eval {rule : Test → Bool} {q part : Query} (h : Demands q part)
    (heval : q.eval rule = true) : part.eval rule = true := by
  induction h with
  | self => exact heval
  | ofAllOf hq _ ih => exact ih ((eval_allOf_iff rule _).mp heval _ hq)

/-- What tests say is collected from those that the query exposes. -/
theorem mem_collect_iff {α : Type} {f : Test → Option α} {q : Query} {a : α} :
    a ∈ q.collect f ↔ ∃ t, Exposes q (test t) ∧ f t = some a := by
  have hall : ∀ qs : List Query, a ∈ collectAll f qs ↔ ∃ q ∈ qs, a ∈ q.collect f := by
    intro qs
    induction qs with
    | nil => simp [collectAll]
    | cons q qs ih => simp [collectAll, ih]
  have hterms : ∀ qs : List Query,
      (∀ q ∈ qs, a ∈ q.collect f ↔ ∃ t, Exposes q (test t) ∧ f t = some a) →
        (a ∈ collectAll f qs ↔ ∃ t, (∃ q ∈ qs, Exposes q (test t)) ∧ f t = some a) := by
    intro qs ih
    rw [hall]
    constructor
    · rintro ⟨q, hq, ha⟩
      obtain ⟨t, ht, hf⟩ := (ih q hq).mp ha
      exact ⟨t, ⟨q, hq, ht⟩, hf⟩
    · rintro ⟨t, ⟨q, hq, ht⟩, hf⟩
      exact ⟨q, hq, (ih q hq).mpr ⟨t, ht, hf⟩⟩
  induction q with
  | anyOf qs ih => simp [collect, hterms qs ih]
  | allOf qs ih => simp [collect, hterms qs ih]
  | test t => simp [collect]
  | _ => simp [collect]

/-- No test of the kind stands under a choice, nor, if the query itself stands under one, anywhere
in the query. What a complement encloses is not looked at. -/
inductive Apart (kind : Test → Bool) : Bool → Query → Prop
  | everything (inChoice : Bool) : Apart kind inChoice everything
  | nothing (inChoice : Bool) : Apart kind inChoice nothing
  | complement (inChoice : Bool) (q : Query) : Apart kind inChoice (complement q)
  | test (inChoice : Bool) (t : Test) (ht : inChoice = true → kind t = false) :
      Apart kind inChoice (test t)
  | anyOf (inChoice : Bool) (qs : List Query) (hterms : ∀ q ∈ qs, Apart kind true q) :
      Apart kind inChoice (anyOf qs)
  | allOf (inChoice : Bool) (qs : List Query) (hterms : ∀ q ∈ qs, Apart kind inChoice q) :
      Apart kind inChoice (allOf qs)

section
variable {kind : Test → Bool} {inChoice : Bool}

theorem apart_test_iff {t : Test} :
    Apart kind inChoice (.test t) ↔ (inChoice = true → kind t = false) := by
  constructor
  · intro h
    cases h with
    | test _ _ ht => exact ht
  · exact .test _ t

theorem apart_anyOf_iff {qs : List Query} :
    Apart kind inChoice (.anyOf qs) ↔ ∀ q ∈ qs, Apart kind true q := by
  constructor
  · intro h
    cases h with
    | anyOf _ _ hterms => exact hterms
  · exact .anyOf _ qs

theorem apart_allOf_iff {qs : List Query} :
    Apart kind inChoice (.allOf qs) ↔ ∀ q ∈ qs, Apart kind inChoice q := by
  constructor
  · intro h
    cases h with
    | allOf _ _ hterms => exact hterms
  · exact .allOf _ qs

/-- Outside choices less is asked for. -/
theorem Apart.of_inChoice {q : Query} (h : Apart kind true q) : Apart kind inChoice q := by
  induction q with
  | everything => exact .everything _
  | nothing => exact .nothing _
  | complement q => exact .complement _ q
  | test t => exact apart_test_iff.mpr fun _ => apart_test_iff.mp h rfl
  | anyOf qs => exact apart_anyOf_iff.mpr (apart_anyOf_iff.mp h)
  | allOf qs ih => exact apart_allOf_iff.mpr fun q hq => ih q hq (apart_allOf_iff.mp h q hq)

theorem Apart.eq_false_of_exposes {q : Query} {t : Test} (h : Apart kind true q)
    (ht : Exposes q (.test t)) : kind t = false := by
  generalize hpart : Query.test t = part at ht
  induction ht with
  | self =>
    subst hpart
    exact apart_test_iff.mp h rfl
  | ofAnyOf hq _ ih => exact ih (apart_anyOf_iff.mp h _ hq) hpart
  | ofAllOf hq _ ih => exact ih (apart_allOf_iff.mp h _ hq) hpart

/-- A test of the kind is demanded wherever it is exposed. -/
theorem Apart.demands {q : Query} {t : Test} (h : Apart kind false q) (ht : Exposes q (.test t))
    (hkind : kind t = true) : Demands q (.test t) := by
  generalize hpart : Query.test t = part at ht ⊢
  induction ht with
  | self => exact .self _
  | ofAnyOf hq hexposed =>
    subst hpart
    have hnone := (apart_anyOf_iff.mp h _ hq).eq_false_of_exposes hexposed
    rw [hnone] at hkind
    cases hkind
  | ofAllOf hq _ ih => exact .ofAllOf hq (ih (apart_allOf_iff.mp h _ hq) hpart)

/-- A pass keeps the tests of a kind apart if it may join them, or leaves them alone. -/
theorem apart_reduceWith {settle : Query → Query}
    (hdate : ∀ a b : Span, kind (.date a) = kind (.date b))
    (h : ∀ c inChoice, Apart kind inChoice c → Apart kind inChoice (settle c)) {q : Query}
    (hq : Apart kind inChoice q) : Apart kind inChoice (reduceWith settle q) := by
  induction q generalizing inChoice with
  | anyOf qs ih =>
    have hterms := apart_anyOf_iff.mp hq
    have hstep := reduces_anyOf settle qs
    generalize reduceWith settle (.anyOf qs) = reduced at hstep ⊢
    cases hstep with
    | keep => exact hq
    | noneOfAny => exact .everything _
    | onlyOfAny q => exact h q _ (hterms q List.mem_cons_self).of_inChoice
    | oneOfAny _ q _ hmem => exact ih q hmem (hterms q hmem).of_inChoice
    | everythingOfAny => exact .everything _
    | termsOfAny =>
      refine apart_anyOf_iff.mpr (List.forall_mem_map.mpr fun q hkept => ?_)
      have hmem := List.mem_of_mem_filter hkept
      exact ih q hmem (hterms q hmem)
  | allOf qs ih =>
    have hterms := apart_allOf_iff.mp hq
    have hstep := reduces_allOf settle qs
    generalize reduceWith settle (.allOf qs) = reduced at hstep ⊢
    cases hstep with
    | keep => exact hq
    | noneOfAll => exact .everything _
    | oneOfAll _ q hmem => exact ih q hmem (hterms q hmem)
    | nothingOfAll => exact .nothing _
    | datesOfAll spans hspans =>
      obtain ⟨q, hmem, -⟩ := hspans
      obtain ⟨span, -, rfl⟩ := List.mem_map.mp hmem
      refine apart_test_iff.mpr fun hchoice => ?_
      rw [hdate _ span]
      exact apart_test_iff.mp (hterms _ hmem) hchoice
    | termsOfAll =>
      refine apart_allOf_iff.mpr (List.forall_mem_map.mpr fun q hkept => ?_)
      have hmem := (mem_datesToFront_filter.mp hkept).1
      exact ih q hmem (hterms q hmem)
  | test t =>
    have hstep := reduces_reduceWith settle (.test t)
    generalize reduceWith settle (.test t) = reduced at hstep ⊢
    cases hstep with
    | keep => exact hq
    | openDate => exact .everything _
  | _ => exact hq

theorem apart_simplify (hdate : ∀ a b : Span, kind (.date a) = kind (.date b)) {q : Query}
    (hq : Apart kind inChoice q) : Apart kind inChoice q.simplify := by
  have hkeeps := rel_simplify
    (R := fun q r => ∀ inChoice, Apart kind inChoice q → Apart kind inChoice r)
    (fun q inChoice hq => hq) (fun hab hbc inChoice ha => hbc inChoice (hab inChoice ha))
    (fun settle hsettle q inChoice hq => apart_reduceWith hdate hsettle hq) q
  exact hkeeps inChoice hq

end

/-- The test has to be passed, or the query evidently matches nothing. -/
def Enforces (q : Query) (t : Test) : Prop := Demands q (test t) ∨ Demands q nothing

theorem enforces_allOf_iff (qs : List Query) (t : Test) :
    Enforces (allOf qs) t ↔ ∃ q ∈ qs, Enforces q t := by
  constructor
  · rintro (h | h)
    · cases h with
      | ofAllOf hq h => exact ⟨_, hq, Or.inl h⟩
    · cases h with
      | ofAllOf hq h => exact ⟨_, hq, Or.inr h⟩
  · rintro ⟨q, hq, h | h⟩
    · exact Or.inl (.ofAllOf hq h)
    · exact Or.inr (.ofAllOf hq h)

/-- A query that is no conjunction enforces nothing but itself. -/
theorem eq_of_enforces {q : Query} {t : Test} (h : Enforces q t) (hall : ∀ qs, q ≠ allOf qs) :
    q = test t ∨ q = nothing := by
  rcases h with h | h
  · cases h with
    | self => exact Or.inl rfl
    | ofAllOf => exact absurd rfl (hall _)
  · cases h with
    | self => exact Or.inr rfl
    | ofAllOf => exact absurd rfl (hall _)

theorem not_enforces_date {t : Test} {span : Span} (ht : t ≠ .date span) :
    ¬Enforces (test (.date span)) t := by
  intro h
  rcases eq_of_enforces h (by simp) with heq | heq
  · injection heq with heq
    exact ht heq.symm
  · cases heq

/-- A pass may join tests for dates, and goes on to enforce all other tests. -/
theorem enforces_reduceWith (settle : Query → Query) {t : Test}
    (ht : ∀ span : Span, t ≠ .date span) {q : Query} (h : Enforces q t) :
    Enforces (reduceWith settle q) t := by
  induction q with
  | anyOf qs => rcases eq_of_enforces h (by simp) with heq | heq <;> cases heq
  | allOf qs ih =>
    obtain ⟨q, hq, hterm⟩ := (enforces_allOf_iff qs t).mp h
    have hstep := reduces_allOf settle qs
    generalize reduceWith settle (allOf qs) = reduced at hstep ⊢
    cases hstep with
    | keep => exact h
    | noneOfAll => cases hq
    | oneOfAll _ r hr hsame =>
      rw [hsame q hq] at hterm
      exact ih r hr hterm
    | nothingOfAll => exact Or.inr (.self _)
    | datesOfAll spans =>
      obtain ⟨span, -, rfl⟩ := List.mem_map.mp hq
      exact absurd hterm (not_enforces_date (ht span))
    | termsOfAll =>
      have hplain : q ≠ everything := by
        rintro rfl
        rcases eq_of_enforces hterm (by simp) with heq | heq <;> cases heq
      have hkept := mem_datesToFront_filter.mpr ⟨hq, hplain⟩
      exact (enforces_allOf_iff _ t).mpr ⟨_, List.mem_map_of_mem hkept, ih q hq hterm⟩
  | test u =>
    have hstep := reduces_reduceWith settle (test u)
    generalize reduceWith settle (test u) = reduced at hstep ⊢
    cases hstep with
    | keep => exact h
    | openDate => exact absurd h (not_enforces_date (ht .unbounded))
  | _ => exact h

theorem enforces_simplify {t : Test} (ht : ∀ span : Span, t ≠ .date span) {q : Query}
    (h : Enforces q t) : Enforces q.simplify t := by
  have hkeeps := rel_simplify (R := fun q r => Enforces q t → Enforces r t)
    (fun q hq => hq) (fun hab hbc ha => hbc (hab ha))
    (fun settle _ q hq => enforces_reduceWith settle ht hq) q
  exact hkeeps h

/-- A query that matches anything demands the tests that it enforces. -/
theorem Enforces.demands {rule : Test → Bool} {q : Query} {t : Test} (h : Enforces q t)
    (heval : q.eval rule = true) : Demands q (test t) := by
  rcases h with h | h
  · exact h
  · have hnothing := h.eval heval
    cases hnothing

section
variable {rule : Test → Bool} {q : Query}

/-- If no choice has a test with a span for the field, the span of the query has the date of all
that the query matches. -/
theorem contains_dateSpan_of_eval {field : DateField} {date? : Option Date}
    (hrule : LooksAt rule field date?) (hq : Apart (fun t => (t.span? field).isSome) false q)
    (heval : q.eval rule = true) : ∀ day ∈ date?, (q.dateSpan field).contains day = true := by
  intro day hday
  apply Span.contains_hullAll
  cases hspans : q.dateSpans field with
  | nil => exact Or.inl rfl
  | cons span spans =>
    have hmem : span ∈ q.dateSpans field := hspans ▸ List.mem_cons_self
    obtain ⟨t, ht, hspan⟩ := mem_collect_iff.mp hmem
    have hdemands := hq.demands ht (Option.isSome_of_eq_some hspan)
    obtain rfl := Test.span?_eq_some_iff.mp hspan
    obtain ⟨date, hdate, hcontains⟩ := hrule span (hdemands.eval heval)
    obtain rfl := Option.mem_unique hdate hday
    exact Or.inr ⟨span, List.mem_cons_self, hcontains⟩

/-- If no choice has a limit on the depth and some limit is enforced, the limit of the query bounds
the level of all that the query matches. -/
theorem le_depthLimit_of_eval {level limit : Int}
    (hrule : ∀ limit, rule (.depth limit) = true → level ≤ limit)
    (hq : Apart (fun t => t.depth?.isSome) false q) (hlimit : Enforces q (.depth limit))
    (heval : q.eval rule = true) : level ≤ q.depthLimit := by
  have hmem : limit ∈ q.collect Test.depth? :=
    mem_collect_iff.mpr ⟨_, (hlimit.demands heval).exposes, rfl⟩
  obtain ⟨least, hleast⟩ := Option.isSome_iff_exists.mp (List.isSome_min?_of_mem hmem)
  rw [depthLimit, hleast, Option.getD_some]
  obtain ⟨t, ht, hdepth⟩ := mem_collect_iff.mp (List.min?_mem hleast)
  have hpasses := (hq.demands ht (Option.isSome_of_eq_some hdepth)).eval heval
  cases t with
  | depth limit =>
    cases hdepth
    exact hrule least hpasses
  | _ => cases hdepth

end

end JournalSearch.Query
