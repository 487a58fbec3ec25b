import JournalSearch.Proofs.Calendar.SpanBounds
import JournalSearch.Proofs.Query.NormalForm

/-!
Simplified terms put together. A conjunction of simplified terms needs at most two passes: the first
drops what demands nothing and puts the date tests in front, the second finds that all terms are the
same or that all are date tests. What they leave has a closed form, and so has a choice of
simplified terms.
-/
namespace JournalSearch.Query

open Calendar (Span)

/-- Terms that all have to hold, as one query. Equal terms are one term, and date tests alone are
one test for the days that all of them have. -/
def conjoin : List Query → Query
  | [] => everything
  | q :: qs =>
    if ∀ r ∈ qs, r = q then q
    else if ∀ r ∈ q :: qs, r.isDate then
      test (.date (.interAll ((q :: qs).filterMap dateSpan?)))
    else allOf (q :: qs)

def choose? : List Query → Option Query
  | [] => none
  | q :: qs => some (if ∀ r ∈ qs, r = q then q else anyOf (q :: qs))

theorem mem_or_eq_of_choose? {q : Query} {qs : List Query} (h : choose? qs = some q) :
    q ∈ qs ∨ q = anyOf qs := by
  cases qs with
  | nil => cases h
  | cons first qs =>
    simp only [choose?, Option.some.injEq] at h
    split_ifs at h
    · exact Or.inl (h ▸ List.mem_cons_self)
    · exact Or.inr h.symm

/-- The terms are simplified, and none of them is neutral or decides by itself. -/
structure AreSettled (qs : List Query) : Prop where
  normal : ∀ q ∈ qs, Normal q
  everything_not_mem : everything ∉ qs
  nothing_not_mem : nothing ∉ qs

theorem reduce_of_mem_settled {qs : List Query} (h : AreSettled qs) :
    ∀ q ∈ qs, q.reduce = q := fun q hq => reduce_of_normal (h.normal q hq)

theorem map_reduce_of_settled {qs : List Query} (h : AreSettled qs) : qs.map reduce = qs :=
  (List.map_congr_left (reduce_of_mem_settled h)).trans (List.map_id' qs)

theorem simplify_of_normal {q : Query} (h : Normal q) : q.simplify = q :=
  simplify_of_reduce_eq (reduce_of_normal h)

theorem reduce_anyOf_of_settled {qs : List Query} (h : AreSettled qs) :
    (anyOf qs).reduce = (choose? qs).getD everything := by
  match qs, h with
  | [], _ => rfl
  | [q], h =>
    have hq : q.simplify = q := simplify_of_normal (h.normal q List.mem_cons_self)
    simpa [choose?, reduce, reduceWith] using hq
  | q :: r :: qs, h =>
    have hfilter := filter_ne_eq_self h.nothing_not_mem
    have hmap : (q :: r :: qs).map (reduceWith simplify) = q :: r :: qs := map_reduce_of_settled h
    have hq : reduceWith simplify q = q := reduce_of_mem_settled h q List.mem_cons_self
    rw [reduce, reduceWith_anyOf simplify (q :: r :: qs) (by simp), joinAny_map,
      if_neg h.everything_not_mem, hfilter, hmap, hq]
    rfl

/-- One pass joins settled terms among which the date tests lead. -/
theorem reduce_allOf_of_settled {qs : List Query} (h : AreSettled qs) (hlead : DatesLead qs) :
    (allOf qs).reduce = conjoin qs := by
  cases qs with
  | nil => rfl
  | cons q qs =>
    have hfilter := filter_ne_eq_self h.everything_not_mem
    have hfront := (datesToFront_eq_self_iff (q :: qs)).mpr hlead
    have hmap : (q :: qs).map (reduceWith simplify) = q :: qs := map_reduce_of_settled h
    have hq : reduceWith simplify q = q := reduce_of_mem_settled h q List.mem_cons_self
    rw [reduce, reduceWith_allOf, joinAll_map, if_neg h.nothing_not_mem, hfilter, hfront, hmap, hq]
    rfl

theorem normal_choose? {qs : List Query} (h : AreSettled qs) : ∀ q ∈ choose? qs, Normal q := by
  cases qs with
  | nil => nofun
  | cons q qs =>
    rintro _ ⟨⟩
    split_ifs with hsame
    · exact h.normal q List.mem_cons_self
    · exact .anyOf _ (varied_of_not_same hsame) h.everything_not_mem h.nothing_not_mem h.normal

theorem choose?_ne_nothing {qs : List Query} (h : AreSettled qs) : choose? qs ≠ some nothing := by
  intro hchoice
  rcases mem_or_eq_of_choose? hchoice with hmem | heq
  · exact h.nothing_not_mem hmem
  · cases heq

theorem choose?_ne_everything {qs : List Query} (h : AreSettled qs) :
    choose? qs ≠ some everything := by
  intro hchoice
  rcases mem_or_eq_of_choose? hchoice with hmem | heq
  · exact h.everything_not_mem hmem
  · cases heq

/-- The test for the intersection is simplified, since some day is outside of one of the spans. -/
theorem normal_interAll {q : Query} {qs : List Query} (h : Normal q) (hq : q ∈ qs)
    (hdate : q.isDate = true) :
    Normal (test (.date (.interAll (qs.filterMap dateSpan?)))) := by
  refine .test _ fun hopen => ?_
  injection hopen with hopen
  rw [← Span.isUnbounded_iff, Span.isUnbounded_interAll, List.all_eq_true] at hopen
  obtain ⟨span, rfl⟩ := isDate_iff.mp hdate
  have hspan : span ∈ qs.filterMap dateSpan? := List.mem_filterMap.mpr ⟨_, hq, rfl⟩
  have hunbounded := (Span.isUnbounded_iff span).mp (hopen span hspan)
  rw [hunbounded] at h
  exact not_normal_openDate h

theorem normal_conjoin {qs : List Query} (h : AreSettled qs) (hlead : DatesLead qs) :
    Normal (conjoin qs) := by
  cases qs with
  | nil => exact .everything
  | cons q qs =>
    rw [conjoin]
    split_ifs with hsame hdates
    · exact h.normal q List.mem_cons_self
    · exact normal_interAll (h.normal q List.mem_cons_self) List.mem_cons_self
        (hdates q List.mem_cons_self)
    · push Not at hdates
      exact .allOf _ (varied_of_not_same hsame) h.everything_not_mem h.nothing_not_mem h.normal
        (by simpa using hdates) hlead

theorem conjoin_of_same {q : Query} {qs : List Query} (hq : q ∈ qs) (hsame : ∀ r ∈ qs, r = q) :
    conjoin qs = q := by
  cases qs with
  | nil => cases hq
  | cons first qs =>
    obtain ⟨rfl, hrest⟩ := List.forall_mem_cons.mp hsame
    rw [conjoin, if_pos hrest]

theorem conjoin_of_varied {qs : List Query} (hvaried : Varied qs)
    (hother : ∃ q ∈ qs, q.isDate = false) : conjoin qs = allOf qs := by
  cases qs with
  | nil => exact absurd rfl hvaried.ne_nil
  | cons first qs =>
    rw [conjoin, if_neg, if_neg]
    · obtain ⟨q, hq, hkind⟩ := hother
      intro hdates
      rw [hdates q hq] at hkind
      cases hkind
    · intro hsame
      have hall : ∀ q ∈ first :: qs, q = first := List.forall_mem_cons.mpr ⟨rfl, hsame⟩
      obtain ⟨q, hq, hne⟩ := hvaried.exists_ne first
      exact hne (hall q hq)

/-- Tests for dates alone are one test for the days that all of them have. -/
theorem conjoin_of_dates {dates : List Query} (hne : dates ≠ [])
    (h : ∀ q ∈ dates, q.isDate = true) :
    conjoin dates = test (.date (.interAll (dates.filterMap dateSpan?))) := by
  cases dates with
  | nil => exact absurd rfl hne
  | cons q dates =>
    rw [conjoin]
    split_ifs with hsame
    · obtain ⟨span, rfl⟩ := isDate_iff.mp (h q List.mem_cons_self)
      have hmem : span ∈ (test (.date span) :: dates).filterMap dateSpan? := List.mem_cons_self
      have hspans : ∀ s ∈ (test (.date span) :: dates).filterMap dateSpan?, s = span := by
        intro s hs
        obtain ⟨r, hr, hspan⟩ := List.mem_filterMap.mp hs
        rw [(List.mem_cons.mp hr).elim id (hsame r)] at hspan
        exact (Option.some.inj hspan).symm
      rw [Span.interAll_of_forall_eq hmem hspans]
    · rfl

theorem settled_datesToFront {qs : List Query} (hnormal : ∀ q ∈ qs, Normal q)
    (hnothing : nothing ∉ qs) : AreSettled (datesToFront (qs.filter (· ≠ everything))) := by
  refine ⟨fun q hq => ?_, ?_, ?_⟩
  · exact hnormal q (mem_datesToFront_filter.mp hq).1
  · exact fun hmem => (mem_datesToFront_filter.mp hmem).2 rfl
  · exact fun hmem => hnothing (mem_datesToFront_filter.mp hmem).1

theorem datesLead_dates (spans : List Span) : DatesLead (spans.map fun s => test (.date s)) := by
  apply List.pairwise_of_forall_mem_list
  intro q hq r _ _
  obtain ⟨span, -, rfl⟩ := List.mem_map.mp hq
  rfl

theorem simplify_allOf_of_settled {qs : List Query} (h : AreSettled qs) (hlead : DatesLead qs) :
    (allOf qs).simplify = conjoin qs := by
  rw [← simplify_reduce, reduce_allOf_of_settled h hlead]
  exact simplify_of_normal (normal_conjoin h hlead)

/-- Simplified terms of a conjunction are joined once those that demand nothing are dropped and the
date tests are in front. -/
theorem simplify_allOf_of_normal {qs : List Query} (hnormal : ∀ q ∈ qs, Normal q)
    (hnothing : nothing ∉ qs) :
    (allOf qs).simplify = conjoin (datesToFront (qs.filter (· ≠ everything))) := by
  have hsettled := settled_datesToFront hnormal hnothing
  have hlead := datesLead_datesToFront (qs.filter (· ≠ everything))
  have hstep := reduces_allOf simplify qs
  rw [← simplify_reduce, reduce]
  generalize hreduced : reduceWith simplify (allOf qs) = reduced at hstep ⊢
  cases hstep with
  | keep _ _ hall => exact absurd rfl (hall qs)
  | noneOfAll => exact simplify_of_normal .everything
  | oneOfAll _ q hq hsame =>
    have hsimplified : (reduceWith simplify q).simplify = q :=
      (simplify_reduce q).trans (simplify_of_normal (hnormal q hq))
    rw [hsimplified]
    by_cases hplain : q = everything
    · rw [hplain] at hsame ⊢
      rw [filter_ne_eq_nil hsame]
      rfl
    · symm
      apply conjoin_of_same (mem_datesToFront_filter.mpr ⟨hq, hplain⟩)
      exact fun r hr => hsame r (mem_datesToFront_filter.mp hr).1
  | nothingOfAll _ _ hmem => exact absurd hmem hnothing
  | datesOfAll spans =>
    have heverything : everything ∉ spans.map fun s => test (.date s) := by simp
    have hdates := datesLead_dates spans
    have hall : AreSettled (spans.map fun s => test (.date s)) := ⟨hnormal, heverything, hnothing⟩
    have hfront := (datesToFront_eq_self_iff _).mpr hdates
    rw [← hreduced, ← reduce, simplify_reduce, filter_ne_eq_self heverything, hfront]
    exact simplify_allOf_of_settled hall hdates
  | termsOfAll =>
    have hmap : (datesToFront (qs.filter (· ≠ everything))).map (reduceWith simplify) =
        datesToFront (qs.filter (· ≠ everything)) := map_reduce_of_settled hsettled
    rw [hmap]
    exact simplify_allOf_of_settled hsettled hlead

end JournalSearch.Query
