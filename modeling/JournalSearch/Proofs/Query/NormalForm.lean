import JournalSearch.Proofs.Query.Settling

/-!
The queries that simplification leaves alone, and ends with. They are described by their shape: the
terms of a connective differ, none of them is neutral or deciding, and in a conjunction the date
tests lead and do not stand alone. A pass over such a query finds nothing to do, and where a pass
finds nothing to do the query has this shape.
-/
namespace JournalSearch.Query

/-- The shape of simplified queries. What stands under a complement is not looked at. -/
inductive Normal : Query → Prop
  | everything : Normal everything
  | nothing : Normal nothing
  | complement (q : Query) : Normal (complement q)
  | test (t : Test) (hopen : t ≠ .date .unbounded) : Normal (test t)
  | anyOf (qs : List Query) (hvaried : Varied qs) (heverything : Query.everything ∉ qs)
      (hnothing : Query.nothing ∉ qs) (hterms : ∀ q ∈ qs, Normal q) : Normal (anyOf qs)
  | allOf (qs : List Query) (hvaried : Varied qs) (heverything : Query.everything ∉ qs)
      (hnothing : Query.nothing ∉ qs) (hterms : ∀ q ∈ qs, Normal q)
      (hother : ∃ q ∈ qs, q.isDate = false) (hlead : DatesLead qs) : Normal (allOf qs)

theorem Normal.of_exposes {q part : Query} (h : Normal q) (hpart : Exposes q part) :
    Normal part := by
  induction hpart with
  | self => exact h
  | ofAnyOf hq _ ih =>
    cases h with
    | anyOf _ _ _ _ hterms => exact ih (hterms _ hq)
  | ofAllOf hq _ ih =>
    cases h with
    | allOf _ _ _ _ hterms => exact ih (hterms _ hq)

theorem not_normal_anyOf_nil : ¬Normal (anyOf []) := by
  intro h
  cases h with
  | anyOf _ hvaried => exact hvaried.ne_nil rfl

theorem not_normal_openDate : ¬Normal (test (.date .unbounded)) := by
  intro h
  cases h with
  | test _ hopen => exact hopen rfl

theorem not_plain_of_mem {q : Query} {qs : List Query} (hq : q ∈ qs)
    (heverything : everything ∉ qs) (hnothing : nothing ∉ qs) :
    ¬(q = everything ∨ q = nothing) := by
  rintro (rfl | rfl)
  · exact heverything hq
  · exact hnothing hq

/-- A query that matches everything, or nothing, is no part of a larger simplified query. -/
theorem Normal.eq_of_exposes {q part : Query} (h : Normal q) (hpart : Exposes q part)
    (hplain : part = .everything ∨ part = .nothing) : q = part := by
  induction hpart with
  | self => rfl
  | ofAnyOf hq hexposed ih =>
    cases h with
    | anyOf _ _ heverything hnothing hterms =>
      have heq := ih (hterms _ hq) hplain
      rw [← heq] at hplain
      exact absurd hplain (not_plain_of_mem hq heverything hnothing)
  | ofAllOf hq hexposed ih =>
    cases h with
    | allOf _ _ heverything hnothing hterms =>
      have heq := ih (hterms _ hq) hplain
      rw [← heq] at hplain
      exact absurd hplain (not_plain_of_mem hq heverything hnothing)

theorem reduce_of_normal {q : Query} (h : Normal q) : q.reduce = q := by
  induction h with
  | test t hopen =>
    have hstep := reduces_reduceWith simplify (.test t)
    rw [reduce]
    generalize reduceWith simplify (.test t) = reduced at hstep ⊢
    cases hstep with
    | keep => rfl
    | openDate => exact absurd rfl hopen
  | anyOf qs hvaried heverything hnothing _ ih =>
    have hstep := reduces_anyOf simplify qs
    rw [reduce]
    generalize reduceWith simplify (.anyOf qs) = reduced at hstep ⊢
    cases hstep with
    | keep _ hany => exact absurd rfl (hany qs)
    | noneOfAny => exact absurd rfl hvaried.ne_nil
    | onlyOfAny q => exact absurd rfl (hvaried.ne_singleton q)
    | oneOfAny _ q _ _ hsame =>
      obtain ⟨r, hr, hne⟩ := hvaried.exists_ne q
      exact absurd (hsame r hr) hne
    | everythingOfAny _ _ hq => exact absurd hq heverything
    | termsOfAny =>
      have hterms : qs.map (reduceWith simplify) = qs :=
        (List.map_congr_left ih).trans (List.map_id' qs)
      rw [filter_ne_eq_self hnothing, hterms]
  | allOf qs hvaried heverything hnothing _ hother hlead ih =>
    have hstep := reduces_allOf simplify qs
    rw [reduce]
    generalize reduceWith simplify (.allOf qs) = reduced at hstep ⊢
    cases hstep with
    | keep _ _ hall => exact absurd rfl (hall qs)
    | noneOfAll => exact absurd rfl hvaried.ne_nil
    | oneOfAll _ q _ hsame =>
      obtain ⟨r, hr, hne⟩ := hvaried.exists_ne q
      exact absurd (hsame r hr) hne
    | nothingOfAll _ _ hq => exact absurd hq hnothing
    | datesOfAll spans =>
      obtain ⟨q, hq, hkind⟩ := hother
      obtain ⟨span, -, rfl⟩ := List.mem_map.mp hq
      simp [isDate] at hkind
    | termsOfAll =>
      have hterms : qs.map (reduceWith simplify) = qs :=
        (List.map_congr_left ih).trans (List.map_id' qs)
      rw [filter_ne_eq_self heverything, (datesToFront_eq_self_iff qs).mpr hlead, hterms]
  | _ => rfl

/-- Terms that lose nothing together are left alone one by one. -/
theorem forall_eq_of_weights_le {f : Query → Query} (qs : List Query)
    (h : ∀ q ∈ qs, Lightens q (f q)) (hle : weights qs ≤ weights (qs.map f)) :
    ∀ q ∈ qs, f q = q := by
  intro q hq
  by_contra hne
  have hlost := weights_map_add_le (n := 1) (fun r hr => (h r hr).weight_le) hq
    ((h q hq).weight_lt hne)
  omega

theorem normal_of_reduce_eq {q : Query} (h : q.reduce = q) : Normal q := by
  induction q with
  | everything => exact .everything
  | nothing => exact .nothing
  | complement q => exact .complement q
  | test t =>
    refine .test t ?_
    rintro rfl
    simp [reduce, reduceWith, Calendar.Span.isUnbounded, Calendar.Span.unbounded] at h
  | anyOf qs ih =>
    have hweight := weight_anyOf qs
    have hstep := reduces_anyOf simplify qs
    rw [reduce] at h
    generalize reduceWith simplify (anyOf qs) = reduced at hstep h
    cases hstep with
    | keep _ hany => exact absurd rfl (hany qs)
    | noneOfAny => cases h
    | onlyOfAny q =>
      have hle := weight_simplify_le q
      have hmem := weight_le_weights (List.mem_singleton_self q)
      rw [h] at hle
      omega
    | oneOfAny _ q _ hq =>
      have hle := (lightens_reduce q).weight_le
      have hmem := weight_le_weights hq
      rw [reduce, h] at hle
      omega
    | everythingOfAny => cases h
    | termsOfAny _ hvaried heverything =>
      have hmap : (qs.filter (· ≠ nothing)).map reduce = qs := by injection h
      have hsplit := weights_filter_add (· ≠ nothing) qs
      have hfixed := forall_eq_of_weights_le (qs.filter (· ≠ nothing))
        (fun q _ => lightens_reduce q) (by rw [hmap]; omega)
      rw [List.map_congr_left hfixed, List.map_id'] at hmap
      rw [hmap] at hfixed
      refine .anyOf qs hvaried heverything ?_ fun q hq => ih q hq (hfixed q hq)
      rw [← hmap]
      simp
  | allOf qs ih =>
    have hweight := weights_add_two_le qs
    have hstep := reduces_allOf simplify qs
    rw [reduce] at h
    generalize reduceWith simplify (allOf qs) = reduced at hstep h
    cases hstep with
    | keep _ _ hall => exact absurd rfl (hall qs)
    | noneOfAll => cases h
    | oneOfAll _ q hq =>
      have hle := (lightens_reduce q).weight_le
      have hmem := weight_le_weights hq
      rw [reduce, h] at hle
      omega
    | nothingOfAll => cases h
    | datesOfAll => cases h
    | termsOfAll _ hvaried hnothing hother =>
      have hmap : (datesToFront (qs.filter (· ≠ everything))).map reduce = qs := by injection h
      have hsplit := weights_filter_add (· ≠ everything) qs
      have hfront := weights_perm (datesToFront_perm (qs.filter (· ≠ everything)))
      have hfixed := forall_eq_of_weights_le (datesToFront (qs.filter (· ≠ everything)))
        (fun q _ => lightens_reduce q) (by rw [hmap]; omega)
      rw [List.map_congr_left hfixed, List.map_id'] at hmap
      rw [hmap] at hfixed
      refine .allOf qs hvaried ?_ hnothing (fun q hq => ih q hq (hfixed q hq)) hother ?_
      · rw [← hmap, mem_datesToFront]
        simp
      · rw [← hmap]
        exact datesLead_datesToFront _

/-- A pass leaves the normal queries alone and no others. -/
theorem reduce_eq_self_iff (q : Query) : q.reduce = q ↔ Normal q :=
  ⟨normal_of_reduce_eq, reduce_of_normal⟩

theorem normal_simplify (q : Query) : Normal q.simplify :=
  (reduce_eq_self_iff _).mp (reduce_simplify q)

/-- Simplification ends with queries of this shape and leaves no others alone. -/
theorem normal_simplify_and_eq_self_iff (q : Query) :
    Normal q.simplify ∧ (q.simplify = q ↔ Normal q) ∧
      ∀ part, Exposes q.simplify part → part = .everything ∨ part = .nothing →
        q.simplify = part := by
  refine ⟨normal_simplify q, ⟨fun h => ?_, fun h => ?_⟩, fun part => ?_⟩
  · rw [← h]
    exact normal_simplify q
  · exact simplify_of_reduce_eq ((reduce_eq_self_iff q).mpr h)
  · exact (normal_simplify q).eq_of_exposes

end JournalSearch.Query
