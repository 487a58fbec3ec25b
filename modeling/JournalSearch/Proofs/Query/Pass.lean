import JournalSearch.Proofs.Calendar.SpanAlgebra
import JournalSearch.Proofs.Query.Tree
import JournalSearch.Query.Simplify
import Mathlib.Algebra.GroupWithZero.Nat
import Mathlib.Algebra.Order.BigOperators.Group.List
import Mathlib.Algebra.Order.Group.Nat
import Mathlib.Tactic.Common

/-!
What one pass can do to a query. The relation `Reduces` has a case for each rule, with the
condition under which the rule is used; all properties of passes are shown by these cases. No pass
makes a query heavier, and a pass that changes a query makes it lighter. A term that turns into a
date test, or out of one, loses two: it may spoil the order of the conjunction around it, and that
costs only one.
-/
namespace JournalSearch.Query

open Calendar (Span)

def Varied (qs : List Query) : Prop := ∃ q ∈ qs, ∃ r ∈ qs, q ≠ r

theorem varied_of_not_same {q : Query} {qs : List Query} (h : ¬∀ r ∈ qs, r = q) :
    Varied (q :: qs) := by
  push Not at h
  obtain ⟨r, hr, hne⟩ := h
  exact ⟨r, List.mem_cons_of_mem _ hr, q, List.mem_cons_self, hne⟩

theorem Varied.ne_nil {qs : List Query} (h : Varied qs) : qs ≠ [] := by
  rintro rfl
  obtain ⟨q, hq, -⟩ := h
  simp at hq

theorem Varied.ne_singleton {qs : List Query} (h : Varied qs) (q : Query) : qs ≠ [q] := by
  rintro rfl
  obtain ⟨a, ha, b, hb, hne⟩ := h
  rw [List.mem_singleton] at ha hb
  exact hne (ha.trans hb.symm)

/-- Of terms that differ, some differ from any given query. -/
theorem Varied.exists_ne {qs : List Query} (h : Varied qs) (q : Query) : ∃ r ∈ qs, r ≠ q := by
  obtain ⟨a, ha, b, hb, hne⟩ := h
  by_cases haq : a = q
  · subst haq
    exact ⟨b, hb, Ne.symm hne⟩
  · exact ⟨a, ha, haq⟩

def datesToFront (qs : List Query) : List Query := qs.filter isDate ++ qs.filter (!·.isDate)

/-- No date test stands behind another term. -/
def DatesLead (qs : List Query) : Prop := qs.Pairwise fun q r => r.isDate → q.isDate

theorem datesToFront_perm (qs : List Query) : (datesToFront qs).Perm qs :=
  List.filter_append_perm isDate qs

theorem mem_datesToFront {q : Query} {qs : List Query} : q ∈ datesToFront qs ↔ q ∈ qs :=
  (datesToFront_perm qs).mem_iff

/-- The terms that a pass keeps of a conjunction. -/
theorem mem_datesToFront_filter {q : Query} {qs : List Query} :
    q ∈ datesToFront (qs.filter (· ≠ everything)) ↔ q ∈ qs ∧ q ≠ everything := by
  rw [mem_datesToFront, List.mem_filter, decide_eq_true_eq]

theorem datesLead_datesToFront (qs : List Query) : DatesLead (datesToFront qs) := by
  rw [DatesLead, datesToFront, List.pairwise_append]
  refine ⟨?_, ?_, ?_⟩
  · apply List.pairwise_of_forall_mem_list
    intro q hq r _ _
    exact (List.mem_filter.mp hq).2
  · apply List.pairwise_of_forall_mem_list
    intro q _ r hr hdate
    simp [hdate] at hr
  · intro q hq r _ _
    exact (List.mem_filter.mp hq).2

/-- Terms stay where they are exactly if no date test stands behind another term. -/
theorem datesToFront_eq_self_iff (qs : List Query) : datesToFront qs = qs ↔ DatesLead qs := by
  constructor
  · intro h
    rw [← h]
    exact datesLead_datesToFront qs
  · intro h
    induction qs with
    | nil => rfl
    | cons q qs ih =>
      obtain ⟨hq, hqs⟩ := List.pairwise_cons.mp h
      have hrest := ih hqs
      cases hdate : q.isDate with
      | true => simpa [datesToFront, hdate] using hrest
      | false =>
        have hnone : ∀ r ∈ qs, r.isDate = false := by
          intro r hr
          by_contra hr'
          simp [hq r hr (by simpa using hr')] at hdate
        rw [datesToFront, List.filter_eq_nil_iff.mpr (by simpa [hdate] using hnone)]
        exact List.filter_eq_self.mpr (by simpa [hdate] using hnone)

theorem datesFirst_iff (qs : List Query) : datesFirst qs = true ↔ DatesLead qs := by
  rw [datesFirst, beq_iff_eq]
  exact datesToFront_eq_self_iff qs

theorem reduceEach_eq_map (settle : Query → Query) (qs : List Query) :
    reduceEach settle qs = qs.map fun q => (q, reduceWith settle q) := by
  induction qs with
  | nil => rfl
  | cons q qs ih => simp [reduceEach, ih]

/-- The rules of a pass. The first group is on single tests, the second on conjunctions and the
third on choices. Terms that all are the same query are one term. -/
inductive Reduces (settle : Query → Query) : Query → Query → Prop
  | keep (q : Query) (hany : ∀ qs, q ≠ anyOf qs) (hall : ∀ qs, q ≠ allOf qs)
      (hopen : q ≠ test (.date .unbounded)) : Reduces settle q q
  | openDate : Reduces settle (test (.date .unbounded)) everything
  | noneOfAll : Reduces settle (allOf []) everything
  | oneOfAll (qs : List Query) (q : Query) (hq : q ∈ qs) (hsame : ∀ r ∈ qs, r = q) :
      Reduces settle (allOf qs) (reduceWith settle q)
  | nothingOfAll (qs : List Query) (hqs : Varied qs) (hnothing : nothing ∈ qs) :
      Reduces settle (allOf qs) nothing
  | datesOfAll (spans : List Span) (hqs : Varied (spans.map fun s => test (.date s))) :
      Reduces settle (allOf (spans.map fun s => test (.date s))) (test (.date (.interAll spans)))
  | termsOfAll (qs : List Query) (hqs : Varied qs) (hnothing : nothing ∉ qs)
      (hother : ∃ q ∈ qs, q.isDate = false) :
      Reduces settle (allOf qs)
        (allOf ((datesToFront (qs.filter (· ≠ everything))).map (reduceWith settle)))
  | noneOfAny : Reduces settle (anyOf []) everything
  | onlyOfAny (q : Query) : Reduces settle (anyOf [q]) (settle q)
  | oneOfAny (qs : List Query) (q : Query) (hqs : qs ≠ [q]) (hq : q ∈ qs)
      (hsame : ∀ r ∈ qs, r = q) : Reduces settle (anyOf qs) (reduceWith settle q)
  | everythingOfAny (qs : List Query) (hqs : Varied qs) (heverything : everything ∈ qs) :
      Reduces settle (anyOf qs) everything
  | termsOfAny (qs : List Query) (hqs : Varied qs) (heverything : everything ∉ qs) :
      Reduces settle (anyOf qs) (anyOf ((qs.filter (· ≠ nothing)).map (reduceWith settle)))

theorem reduceWith_allOf (settle : Query → Query) (qs : List Query) :
    reduceWith settle (allOf qs) = joinAll (qs.map fun q => (q, reduceWith settle q)) := by
  rw [reduceWith, reduceEach_eq_map]

theorem reduceWith_anyOf (settle : Query → Query) (qs : List Query) (h : ∀ q, qs ≠ [q]) :
    reduceWith settle (anyOf qs) = joinAny (qs.map fun q => (q, reduceWith settle q)) := by
  rw [reduceWith, reduceEach_eq_map]
  exact h

/-- Terms decide by themselves what becomes of them, and what is kept is their reduced form. -/
theorem joinAll_map (f : Query → Query) (q : Query) (qs : List Query) :
    joinAll ((q :: qs).map fun r => (r, f r)) =
      if ∀ r ∈ qs, r = q then f q
      else if nothing ∈ q :: qs then nothing
      else if ∀ r ∈ q :: qs, r.isDate then
        test (.date (.interAll ((q :: qs).filterMap dateSpan?)))
      else allOf ((datesToFront ((q :: qs).filter (· ≠ everything))).map f) := by
  have hcons : (q, f q) :: qs.map (fun r => (r, f r)) = (q :: qs).map fun r => (r, f r) := rfl
  simp only [List.map_cons, joinAll]
  rw [hcons]
  generalize q :: qs = all
  simp [datesToFront, List.filter_map, List.filterMap_map, Function.comp_def]

theorem joinAny_map (f : Query → Query) (q : Query) (qs : List Query) :
    joinAny ((q :: qs).map fun r => (r, f r)) =
      if ∀ r ∈ qs, r = q then f q
      else if everything ∈ q :: qs then everything
      else anyOf (((q :: qs).filter (· ≠ nothing)).map f) := by
  have hcons : (q, f q) :: qs.map (fun r => (r, f r)) = (q :: qs).map fun r => (r, f r) := rfl
  simp only [List.map_cons, joinAny]
  rw [hcons]
  generalize q :: qs = all
  simp [List.filter_map, Function.comp_def]

/-- Date tests are given by their spans. -/
theorem map_filterMap_dateSpan? (qs : List Query) (h : ∀ q ∈ qs, q.isDate) :
    (qs.filterMap dateSpan?).map (fun s => test (.date s)) = qs := by
  induction qs with
  | nil => rfl
  | cons q qs ih =>
    obtain ⟨hq, hqs⟩ := List.forall_mem_cons.mp h
    match q, hq with
    | test (.date s), _ => simpa [dateSpan?] using ih hqs

theorem reduces_allOf (settle : Query → Query) (qs : List Query) :
    Reduces settle (allOf qs) (reduceWith settle (allOf qs)) := by
  rw [reduceWith_allOf]
  cases qs with
  | nil => exact .noneOfAll
  | cons q qs =>
    rw [joinAll_map]
    split_ifs with hsame hnothing hdates
    · exact .oneOfAll _ q List.mem_cons_self (List.forall_mem_cons.mpr ⟨rfl, hsame⟩)
    · exact .nothingOfAll _ (varied_of_not_same hsame) hnothing
    · have hvaried := varied_of_not_same hsame
      have hspans := map_filterMap_dateSpan? (q :: qs) hdates
      generalize (q :: qs).filterMap dateSpan? = spans at hspans ⊢
      rw [← hspans] at hvaried ⊢
      exact .datesOfAll spans hvaried
    · push Not at hdates
      exact .termsOfAll _ (varied_of_not_same hsame) hnothing (by simpa using hdates)

theorem reduces_anyOf (settle : Query → Query) (qs : List Query) :
    Reduces settle (anyOf qs) (reduceWith settle (anyOf qs)) := by
  match qs with
  | [] => exact .noneOfAny
  | [q] => exact .onlyOfAny q
  | q :: r :: qs =>
    rw [reduceWith_anyOf settle (q :: r :: qs) (by simp), joinAny_map]
    split_ifs with hsame heverything
    · exact .oneOfAny _ q (by simp) List.mem_cons_self (List.forall_mem_cons.mpr ⟨rfl, hsame⟩)
    · exact .everythingOfAny _ (varied_of_not_same hsame) heverything
    · exact .termsOfAny _ (varied_of_not_same hsame) heverything

/-- A pass follows the rules. -/
theorem reduces_reduceWith (settle : Query → Query) (q : Query) :
    Reduces settle q (reduceWith settle q) := by
  cases q with
  | everything => exact .keep _ (by simp) (by simp) (by simp)
  | nothing => exact .keep _ (by simp) (by simp) (by simp)
  | complement q => exact .keep _ (by simp) (by simp) (by simp)
  | anyOf qs => exact reduces_anyOf settle qs
  | allOf qs => exact reduces_allOf settle qs
  | test t =>
    cases t with
    | date span =>
      rw [reduceWith]
      split_ifs with hopen
      · rw [(Span.isUnbounded_iff span).mp hopen]
        exact .openDate
      · refine .keep _ (by simp) (by simp) ?_
        simpa using hopen
    | _ => exact .keep _ (by simp) (by simp) (by simp)

theorem weight_pos (q : Query) : 0 < q.weight := by
  cases q with
  | test t =>
    cases t with
    | date span =>
      rw [weight]
      split_ifs <;> omega
    | _ => simp [weight]
  | anyOf qs =>
    rw [weight]
    omega
  | allOf qs =>
    rw [weight]
    omega
  | _ => simp [weight]

theorem weights_add_two_le (qs : List Query) : weights qs + 2 ≤ (allOf qs).weight := by
  rw [weight]
  omega

theorem weight_anyOf (qs : List Query) : (anyOf qs).weight = weights qs + 2 := by
  rw [weight]
  omega

theorem weights_eq_sum (qs : List Query) : weights qs = (qs.map weight).sum := by
  induction qs with
  | nil => rfl
  | cons q qs ih => simp [weights, ih]

theorem weights_perm {qs rs : List Query} (h : qs.Perm rs) : weights qs = weights rs := by
  rw [weights_eq_sum, weights_eq_sum]
  exact (h.map weight).sum_nat

theorem weight_le_weights {q : Query} {qs : List Query} (hq : q ∈ qs) : q.weight ≤ weights qs := by
  rw [weights_eq_sum]
  exact List.le_sum_of_mem (List.mem_map_of_mem hq)

theorem weights_filter_add (keep : Query → Bool) (qs : List Query) :
    weights (qs.filter keep) + weights (qs.filter (!keep ·)) = weights qs := by
  rw [← weights_perm (List.filter_append_perm keep qs)]
  simp [weights_eq_sum]

theorem weights_filter_lt (keep : Query → Bool) {q : Query} {qs : List Query} (hq : q ∈ qs)
    (hkeep : keep q = false) : weights (qs.filter keep) < weights qs := by
  have hsplit := weights_filter_add keep qs
  have hdropped : q ∈ qs.filter (!keep ·) := List.mem_filter.mpr ⟨hq, by simp [hkeep]⟩
  have hle := weight_le_weights hdropped
  have hpos := weight_pos q
  omega

theorem weights_map_le {f : Query → Query} {qs : List Query}
    (h : ∀ q ∈ qs, (f q).weight ≤ q.weight) : weights (qs.map f) ≤ weights qs := by
  rw [weights_eq_sum, weights_eq_sum, List.map_map]
  exact List.sum_le_sum h

/-- What one term loses is lost by all terms together. -/
theorem weights_map_add_le {f : Query → Query} {qs : List Query} {n : ℕ}
    (h : ∀ q ∈ qs, (f q).weight ≤ q.weight) {q : Query} (hq : q ∈ qs)
    (hn : (f q).weight + n ≤ q.weight) : weights (qs.map f) + n ≤ weights qs := by
  obtain ⟨before, after, rfl⟩ := List.append_of_mem hq
  have hbefore : weights (before.map f) ≤ weights before :=
    weights_map_le fun r hr => h r (by simp [hr])
  have hafter : weights (after.map f) ≤ weights after :=
    weights_map_le fun r hr => h r (by simp [hr])
  simp only [weights_eq_sum, List.map_append, List.sum_append, List.map_cons, List.sum_cons] at *
  omega

theorem filter_ne_eq_nil {q : Query} {qs : List Query} (h : ∀ r ∈ qs, r = q) :
    qs.filter (· ≠ q) = [] :=
  List.filter_eq_nil_iff.mpr fun r hr => by simp [h r hr]

theorem filter_ne_eq_self {q : Query} {qs : List Query} (h : q ∉ qs) :
    qs.filter (· ≠ q) = qs :=
  List.filter_eq_self.mpr fun _ hr => decide_eq_true (ne_of_mem_of_not_mem hr h)

/-- A query becomes lighter if it changes, and loses two if it starts or stops being a date
test. -/
structure Lightens (q reduced : Query) : Prop where
  weight_lt : reduced ≠ q → reduced.weight < q.weight
  weight_of_kind : reduced.isDate ≠ q.isDate → reduced.weight + 2 ≤ q.weight

theorem Lightens.refl (q : Query) : Lightens q q := ⟨fun h => absurd rfl h, fun h => absurd rfl h⟩

theorem Lightens.of_two {q reduced : Query} (h : reduced.weight + 2 ≤ q.weight) :
    Lightens q reduced := ⟨fun _ => by omega, fun _ => h⟩

theorem Lightens.weight_le {q reduced : Query} (h : Lightens q reduced) :
    reduced.weight ≤ q.weight := by
  by_cases heq : reduced = q
  · exact Nat.le_of_eq (congrArg weight heq)
  · exact Nat.le_of_lt (h.weight_lt heq)

/-- The intersection weighs no more than any of the tests, as it is open only if they all are. -/
theorem weight_interAll_le {span : Span} {spans : List Span} (h : span ∈ spans) :
    weight (test (.date (.interAll spans))) ≤ weight (test (.date span)) := by
  rw [weight, weight]
  by_cases hopen : (Span.interAll spans).isUnbounded
  · have hspan : span.isUnbounded := by
      rw [Span.isUnbounded_interAll, List.all_eq_true] at hopen
      exact hopen span h
    rw [if_pos hopen, if_pos hspan]
  · rw [if_neg hopen]
    split_ifs <;> omega

/-- Terms that keep their kinds keep the date tests in front. -/
theorem datesLead_map {f : Query → Query} {qs : List Query} (h : DatesLead qs)
    (hkind : ∀ q ∈ qs, (f q).isDate = q.isDate) : DatesLead (qs.map f) := by
  rw [DatesLead, List.pairwise_map]
  apply List.Pairwise.imp_of_mem _ h
  intro q r hq hr hlead
  rw [hkind q hq, hkind r hr]
  exact hlead

theorem lightens_termsOfAll {f : Query → Query} {qs : List Query}
    (h : ∀ q ∈ qs, Lightens q (f q)) :
    Lightens (allOf qs) (allOf ((datesToFront (qs.filter (· ≠ everything))).map f)) := by
  have hsplit := weights_filter_add (· ≠ everything) qs
  have hfront := weights_perm (datesToFront_perm (qs.filter (· ≠ everything)))
  have hlight : ∀ q ∈ datesToFront (qs.filter (· ≠ everything)), Lightens q (f q) := by
    intro q hq
    exact h q (mem_datesToFront_filter.mp hq).1
  have hle : ∀ q ∈ datesToFront (qs.filter (· ≠ everything)), (f q).weight ≤ q.weight :=
    fun q hq => (hlight q hq).weight_le
  refine ⟨fun hne => ?_, fun hkind => absurd rfl hkind⟩
  rw [weight, weight]
  by_cases hkind : ∀ q ∈ datesToFront (qs.filter (· ≠ everything)), (f q).isDate = q.isDate
  · -- The order is right afterwards, so a loss anywhere is a loss of the whole.
    have hlead := datesLead_map (datesLead_datesToFront (qs.filter (· ≠ everything))) hkind
    rw [if_pos ((datesFirst_iff _).mpr hlead)]
    by_cases hsame : ∀ q ∈ datesToFront (qs.filter (· ≠ everything)), f q = q
    · rw [List.map_congr_left hsame, List.map_id'] at hne ⊢
      by_cases heverything : everything ∈ qs
      · have hlt := weights_filter_lt (· ≠ everything) heverything (by simp)
        omega
      · rw [filter_ne_eq_self heverything] at hne hfront ⊢
        have hfirst : ¬datesFirst qs = true := by
          rw [datesFirst_iff, ← datesToFront_eq_self_iff]
          exact fun heq => hne (congrArg allOf heq)
        rw [if_neg hfirst]
        omega
    · push Not at hsame
      obtain ⟨q, hq, hchanged⟩ := hsame
      have hadd := weights_map_add_le (n := 1) hle hq ((hlight q hq).weight_lt hchanged)
      omega
  · push Not at hkind
    obtain ⟨q, hq, hchanged⟩ := hkind
    have hadd := weights_map_add_le hle hq ((hlight q hq).weight_of_kind hchanged)
    split_ifs <;> omega

theorem lightens_termsOfAny {f : Query → Query} {qs : List Query}
    (h : ∀ q ∈ qs, Lightens q (f q)) :
    Lightens (anyOf qs) (anyOf ((qs.filter (· ≠ nothing)).map f)) := by
  have hsplit := weights_filter_add (· ≠ nothing) qs
  have hlight : ∀ q ∈ qs.filter (· ≠ nothing), Lightens q (f q) :=
    fun q hq => h q (List.mem_of_mem_filter hq)
  have hle : ∀ q ∈ qs.filter (· ≠ nothing), (f q).weight ≤ q.weight :=
    fun q hq => (hlight q hq).weight_le
  refine ⟨fun hne => ?_, fun hkind => absurd rfl hkind⟩
  rw [weight, weight]
  by_cases hsame : ∀ q ∈ qs.filter (· ≠ nothing), f q = q
  · rw [List.map_congr_left hsame, List.map_id'] at hne ⊢
    have hnothing : nothing ∈ qs := by
      by_contra hnone
      exact hne (congrArg anyOf (filter_ne_eq_self hnone))
    have hlt := weights_filter_lt (· ≠ nothing) hnothing (by simp)
    omega
  · push Not at hsame
    obtain ⟨q, hq, hchanged⟩ := hsame
    have hadd := weights_map_add_le (n := 1) hle hq ((hlight q hq).weight_lt hchanged)
    omega

/-- A pass in which nothing that is settled gets heavier makes a query lighter or leaves it
alone. -/
theorem lightens_reduceWith {settle : Query → Query} (h : ∀ c, (settle c).weight ≤ c.weight)
    (q : Query) : Lightens q (reduceWith settle q) := by
  induction q with
  | anyOf qs ih =>
    have hweight := weight_anyOf qs
    have hstep := reduces_anyOf settle qs
    generalize reduceWith settle (anyOf qs) = reduced at hstep
    cases hstep with
    | keep _ hany => exact absurd rfl (hany qs)
    | noneOfAny => exact ⟨fun _ => by simp [weight, weights], fun hkind => absurd rfl hkind⟩
    | onlyOfAny q =>
      have hle := h q
      have hmem := weight_le_weights (List.mem_singleton_self q)
      exact .of_two (by omega)
    | oneOfAny _ q _ hq =>
      have hle := (ih q hq).weight_le
      have hmem := weight_le_weights hq
      exact .of_two (by omega)
    | everythingOfAny _ _ hq =>
      have hmem := weight_le_weights hq
      exact .of_two (by omega)
    | termsOfAny => exact lightens_termsOfAny ih
  | allOf qs ih =>
    have hweight := weights_add_two_le qs
    have hstep := reduces_allOf settle qs
    generalize reduceWith settle (allOf qs) = reduced at hstep
    cases hstep with
    | keep _ _ hall => exact absurd rfl (hall qs)
    | noneOfAll => exact ⟨fun _ => hweight, fun hkind => absurd rfl hkind⟩
    | oneOfAll _ q hq =>
      have hle := (ih q hq).weight_le
      have hmem := weight_le_weights hq
      exact .of_two (by omega)
    | nothingOfAll _ _ hq =>
      have hmem := weight_le_weights hq
      exact .of_two (by omega)
    | datesOfAll spans hqs =>
      obtain ⟨q, hq, -⟩ := hqs
      obtain ⟨span, hspan, rfl⟩ := List.mem_map.mp hq
      have hle := weight_interAll_le hspan
      have hmem := weight_le_weights hq
      exact .of_two (by omega)
    | termsOfAll => exact lightens_termsOfAll ih
  | test t =>
    have hstep := reduces_reduceWith settle (test t)
    generalize reduceWith settle (test t) = reduced at hstep
    cases hstep with
    | keep => exact .refl _
    | openDate => exact .of_two (by simp [weight, Span.isUnbounded, Span.unbounded])
  | _ => exact .refl _

end JournalSearch.Query
