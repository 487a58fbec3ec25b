import JournalSearch.Pattern.Search
import JournalSearch.Proofs.Calendar.SpanBounds
import JournalSearch.Proofs.Query.Demands

/-!
Queries that set start dates and nothing else. Such a query excludes what is earlier than its start
date, and what is as late as the end of one of its spans, although the end is not looked at when
the query is taken for one that only sets a start. A choice of nothing is taken for one too. Apart
from these, a query that only sets a start date matches all transactions that are not earlier.
-/
namespace JournalSearch

open Calendar (Date Span)

namespace Query

variable {field : DateField} {day : Date}

theorem allStartDateOnly_iff {qs : List Query} :
    allStartDateOnly field qs = true ↔ ∀ q ∈ qs, q.isStartDateOnly field = true := by
  induction qs with
  | nil => simp [allStartDateOnly]
  | cons q qs ih => simp [allStartDateOnly, ih]

section
variable {m : Type → Type} [Monad m] [LawfulMonad m] {rule : Test → m Bool} {rule' : Test → Bool}

theorem holds_anyOf_eq_pure {qs : List Query}
    (h : ∀ q ∈ qs, q.holds rule = pure (q.eval rule')) :
    (anyOf qs).holds rule = pure ((anyOf qs).eval rule') := by
  change holdsAny rule qs = pure (Id.run (holdsAny rule' qs))
  induction qs with
  | nil => rfl
  | cons q qs ih =>
    obtain ⟨hq, hrest⟩ := List.forall_mem_cons.mp h
    rw [holdsAny, hq, pure_bind, ih hrest]
    cases hfound : q.eval rule' <;> rw [eval] at hfound <;> simp [holdsAny, hfound]

theorem holds_allOf_eq_pure {qs : List Query}
    (h : ∀ q ∈ qs, q.holds rule = pure (q.eval rule')) :
    (allOf qs).holds rule = pure ((allOf qs).eval rule') := by
  change holdsAll rule qs = pure (Id.run (holdsAll rule' qs))
  induction qs with
  | nil => rfl
  | cons q qs ih =>
    obtain ⟨hq, hrest⟩ := List.forall_mem_cons.mp h
    rw [holdsAll, hq, pure_bind, ih hrest]
    cases hfound : q.eval rule' <;> rw [eval] at hfound <;> simp [holdsAll, hfound]

/-- A query that only sets starts has no other tests than those for dates. -/
theorem holds_eq_pure_of_isStartDateOnly
    (hrule : ∀ span, rule (field.test span) = pure (rule' (field.test span))) {q : Query}
    (h : q.isStartDateOnly field = true) : q.holds rule = pure (q.eval rule') := by
  induction q with
  | anyOf qs ih =>
    have hterms := allStartDateOnly_iff.mp h
    exact holds_anyOf_eq_pure fun q hq => ih q hq (hterms q hq)
  | allOf qs ih =>
    have hterms := allStartDateOnly_iff.mp h
    exact holds_allOf_eq_pure fun q hq => ih q hq (hterms q hq)
  | test t =>
    obtain ⟨first, hfirst⟩ := Option.isSome_iff_exists.mp h
    obtain ⟨span, hspan, -⟩ := Option.bind_eq_some_iff.mp hfirst
    obtain rfl := Test.span?_eq_some_iff.mp hspan
    exact hrule span
  | everything => cases h
  | nothing => cases h
  | complement q => cases h

end

/-- No choice of the query is empty, and none of its spans ends by the day. -/
structure StillRuns (field : DateField) (day : Date) (q : Query) : Prop where
  offers : ¬Exposes q (anyOf [])
  unfinished : ∀ span ∈ q.dateSpans field, ∀ stop ∈ span.finish, day < stop

/-- What a query exposes runs as long as the query. -/
theorem StillRuns.of_exposes {q part : Query} (h : StillRuns field day q)
    (hpart : ∀ rest, Exposes part rest → Exposes q rest) : StillRuns field day part := by
  refine ⟨fun hempty => h.offers (hpart _ hempty), fun span hspan => ?_⟩
  obtain ⟨t, ht, hset⟩ := mem_collect_iff.mp hspan
  exact h.unfinished span (mem_collect_iff.mpr ⟨t, hpart _ ht, hset⟩)

theorem StillRuns.of_mem_anyOf {q : Query} {qs : List Query} (h : StillRuns field day (anyOf qs))
    (hq : q ∈ qs) : StillRuns field day q :=
  h.of_exposes fun _ hrest => .ofAnyOf hq hrest

theorem StillRuns.of_mem_allOf {q : Query} {qs : List Query} (h : StillRuns field day (allOf qs))
    (hq : q ∈ qs) : StillRuns field day q :=
  h.of_exposes fun _ hrest => .ofAllOf hq hrest

theorem StillRuns.ne_nil {qs : List Query} (h : StillRuns field day (anyOf qs)) : qs ≠ [] := by
  rintro rfl
  exact h.offers (.self _)

theorem StillRuns.contains_iff {span : Span} (h : StillRuns field day (test (field.test span))) :
    span.contains day = true ↔ ∀ first ∈ span.start, first ≤ day := by
  have hspan : span ∈ (test (field.test span)).dateSpans field :=
    mem_collect_iff.mpr ⟨_, .self _, Test.span?_eq_some_iff.mpr rfl⟩
  rw [Span.contains_iff]
  exact and_iff_left (h.unfinished span hspan)

/-- A query that only sets starts, and that still runs on the day, holds if its start date has
come. -/
theorem eval_iff_startDate_le {rule : Test → Bool}
    (hrule : ∀ span, rule (field.test span) = span.contains day) {q : Query}
    (hstart : q.isStartDateOnly field = true) (hruns : StillRuns field day q) :
    q.eval rule = true ↔ ∀ first ∈ q.startDate field, first ≤ day := by
  induction q with
  | anyOf qs ih =>
    have hne : startDates field qs ≠ [] := by
      cases qs with
      | nil => exact absurd rfl hruns.ne_nil
      | cons q qs => simp [startDates]
    have hterms := allStartDateOnly_iff.mp hstart
    rw [eval_anyOf_iff, startDate, Calendar.earliest_le_iff hne]
    constructor
    · rintro ⟨q, hq, hholds⟩
      refine ⟨q.startDate field, mem_startDates.mpr ⟨q, hq, rfl⟩, ?_⟩
      exact (ih q hq (hterms q hq) (hruns.of_mem_anyOf hq)).mp hholds
    · rintro ⟨_, hdate, hle⟩
      obtain ⟨q, hq, rfl⟩ := mem_startDates.mp hdate
      exact ⟨q, hq, (ih q hq (hterms q hq) (hruns.of_mem_anyOf hq)).mpr hle⟩
  | allOf qs ih =>
    have hterms := allStartDateOnly_iff.mp hstart
    rw [eval_allOf_iff, startDate, Calendar.latest_le_iff]
    constructor
    · intro hholds _ hdate
      obtain ⟨q, hq, rfl⟩ := mem_startDates.mp hdate
      exact (ih q hq (hterms q hq) (hruns.of_mem_allOf hq)).mp (hholds q hq)
    · intro hle q hq
      apply (ih q hq (hterms q hq) (hruns.of_mem_allOf hq)).mpr
      exact hle _ (mem_startDates.mpr ⟨q, hq, rfl⟩)
  | test t =>
    obtain ⟨first, hfirst⟩ := Option.isSome_iff_exists.mp hstart
    obtain ⟨span, hspan, -⟩ := Option.bind_eq_some_iff.mp hfirst
    obtain rfl := Test.span?_eq_some_iff.mp hspan
    rw [eval_test, hrule, startDate, hspan]
    exact hruns.contains_iff
  | everything => cases hstart
  | nothing => cases hstart
  | complement q => cases hstart

theorem onTransaction_date {m : Type → Type} [Monad m] (search : String → String → m Bool)
    (t : Transaction) (span : Span) :
    Test.onTransaction search t (field.test span) = pure (span.contains (t.date field)) := by
  cases field <;> rfl

/-- A query that only sets starts, and that still runs on the day of a transaction, excludes the
transaction only if it is earlier than the start date of the query. -/
theorem matchesTransaction_iff_startDate_le {m : Type → Type} [Monad m] [LawfulMonad m]
    (search : String → String → m Bool) {q : Query} {t : Transaction}
    (hstart : q.isStartDateOnly field = true) (hruns : StillRuns field (t.date field) q) :
    ∃ found : Bool, q.matchesTransaction search t = pure found ∧
      (found = true ↔ ∀ first ∈ q.startDate field, first ≤ t.date field) := by
  let rule : Test → Bool := fun test => ((test.span? field).any fun s => s.contains (t.date field))
  have hcontains : ∀ span, rule (field.test span) = span.contains (t.date field) := by
    intro span
    have hspan : (field.test span).span? field = some span := Test.span?_eq_some_iff.mpr rfl
    simp [rule, hspan]
  have hrule : ∀ span,
      Test.onTransaction search t (field.test span) = pure (rule (field.test span)) := by
    intro span
    rw [onTransaction_date, hcontains]
  refine ⟨q.eval rule, holds_eq_pure_of_isStartDateOnly hrule hstart, ?_⟩
  exact eval_iff_startDate_le hcontains hstart hruns

/-- Since January, and since March but not for ever. -/
theorem matchesTransaction_since_march :
    ∃ (q : Query) (t : Transaction),
      q = allOf
        [test (.date ⟨some ⟨2012, 1, 1, by decide, by decide, by decide⟩, none⟩),
          anyOf [test (.date ⟨some ⟨2012, 3, 1, by decide, by decide, by decide⟩,
            some ⟨2014, 1, 1, by decide, by decide, by decide⟩⟩)]] ∧
      t = ⟨⟨⟨2012, 6, 20, by decide, by decide, by decide⟩, "lunch", none, false⟩, []⟩ ∧
      isStartDateOnly .actual q = true ∧ StillRuns .actual (t.date .actual) q ∧
      ∃ found : Bool, matchesTransaction Pattern.search q t = pure found ∧
        (found = true ↔ ∀ first ∈ startDate .actual q, first ≤ t.date .actual) := by
  refine ⟨_, _, rfl, rfl, ?start, ?runs,
    matchesTransaction_iff_startDate_le Pattern.search ?start ?runs⟩
  case start => decide
  case runs => exact ⟨by simp, by decide⟩

/-- The year 2012 only sets a start, the day in 2013 is later, and yet it is excluded. -/
theorem not_matchesTransaction_after_span :
    ∃ (first : Date) (q : Query) (t : Transaction),
      first = ⟨2012, 1, 1, by decide, by decide, by decide⟩ ∧
      q = test (.date ⟨some first, some ⟨2013, 1, 1, by decide, by decide, by decide⟩⟩) ∧
      t = ⟨⟨⟨2013, 6, 1, by decide, by decide, by decide⟩, "rent", none, false⟩, []⟩ ∧
      isStartDateOnly .actual q = true ∧ startDate .actual q = some first ∧
      first ≤ t.date .actual ∧ matchesTransaction Pattern.search q t = .ok false := by
  refine ⟨_, _, _, rfl, rfl, rfl, by decide, by decide, by decide, ?_⟩
  rfl

/-- A choice of nothing only sets starts, too, and excludes everything. -/
example (t : Transaction) :
    isStartDateOnly .actual (anyOf []) = true ∧ startDate .actual (anyOf []) = none ∧
      matchesTransaction Pattern.search (anyOf []) t = .ok false :=
  ⟨rfl, rfl, rfl⟩

end Query

end JournalSearch
