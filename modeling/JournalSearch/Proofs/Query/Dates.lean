import JournalSearch.Proofs.Query.Verdict
import JournalSearch.Query.Parameters

/-!
Dates of what a query matches. A test with a span is passed only by what has a date within the
span, and the start date of a query is put together along the tree from the starts of such spans.
So all that the query matches has a date, and none before the start date. A complement sets no
start, and neither does a choice with a term that sets none.
-/
namespace JournalSearch

open Calendar (Date Span)

/-- Both dates of a transaction are known, as the actual one stands for a missing effective one. -/
def Transaction.date : DateField → Transaction → Date
  | .actual, t => t.heading.date
  | .effective, t => t.heading.effectiveOrDate

def LinkedPosting.date? : DateField → LinkedPosting → Option Date
  | .actual, p => p.heading.map Heading.date
  | .effective, p => p.effectiveDate?

def DateField.test : DateField → Span → Test
  | .actual => .date
  | .effective => .effectiveDate

theorem Test.span?_eq_some_iff {field : DateField} {t : Test} {span : Span} :
    t.span? field = some span ↔ t = field.test span := by
  cases field <;> cases t <;> simp [span?, DateField.test]

namespace Query

def LooksAt (rule : Test → Bool) (field : DateField) (date? : Option Date) : Prop :=
  ∀ span, rule (field.test span) = true → ∃ day ∈ date?, span.contains day = true

theorem looksAt_transaction (search : String → String → Bool) (field : DateField)
    (t : Transaction) :
    LooksAt ((Entity.transaction t).passes search) field (some (t.date field)) := by
  intro span hpasses
  refine ⟨_, rfl, ?_⟩
  cases field <;> exact hpasses

theorem looksAt_posting (search : String → String → Bool) (field : DateField)
    (p : LinkedPosting) :
    LooksAt ((Entity.posting p).passes search) field (p.date? field) := by
  intro span hpasses
  cases field with
  | actual =>
    obtain ⟨h, hheading, hcontains⟩ := (Option.any_eq_true _ _).mp hpasses
    exact ⟨h.date, Option.mem_map_of_mem Heading.date hheading, hcontains⟩
  | effective => exact (Option.any_eq_true _ _).mp hpasses

theorem mem_startDates {field : DateField} {qs : List Query} {date? : Option Date} :
    date? ∈ startDates field qs ↔ ∃ q ∈ qs, startDate field q = date? := by
  induction qs with
  | nil => simp [startDates]
  | cons q qs ih => simp [startDates, ih, eq_comm]

/-- One term of a choice is enough, and the start of the choice is after the start of none. A
conjunction has its start from one of its terms, and all of them hold. -/
theorem startDate_le_of_eval {rule : Test → Bool} {field : DateField} {date? : Option Date}
    (hrule : LooksAt rule field date?) {q : Query} {first : Date}
    (h : q.startDate field = some first) (heval : eval rule q = true) :
    ∃ day ∈ date?, first ≤ day := by
  induction q generalizing first with
  | anyOf qs ih =>
    obtain ⟨q, hq, hterm⟩ := (eval_anyOf_iff rule qs).mp heval
    obtain ⟨start, hstart, hle⟩ :=
      Calendar.exists_le_of_earliest h _ (mem_startDates.mpr ⟨q, hq, rfl⟩)
    obtain ⟨day, hday, hlate⟩ := ih q hq hstart hterm
    exact ⟨day, hday, hle.trans hlate⟩
  | allOf qs ih =>
    obtain ⟨q, hq, hstart⟩ := mem_startDates.mp (Calendar.mem_of_latest h)
    exact ih q hq hstart ((eval_allOf_iff rule qs).mp heval q hq)
  | test t =>
    obtain ⟨span, hspan, hstart⟩ := Option.bind_eq_some_iff.mp h
    obtain rfl := Test.span?_eq_some_iff.mp hspan
    obtain ⟨day, hday, hcontains⟩ := hrule span heval
    exact ⟨day, hday, ((Span.contains_iff span day).mp hcontains).1 first hstart⟩
  | everything => cases h
  | nothing => cases h
  | complement q => cases h

/-- Nothing that a query matches is dated before the start date of the query, and all that it
matches is dated. -/
theorem startDate_le_date {q : Query} {field : DateField} {first : Date}
    (h : q.startDate field = some first) (search : String → String → Bool) :
    (∀ t : Transaction, Id.run (q.matchesTransaction search t) = true → first ≤ t.date field) ∧
      ∀ p : LinkedPosting, Id.run (q.matchesPosting search p) = true →
        ∃ day, p.date? field = some day ∧ first ≤ day := by
  constructor
  · intro t hmatch
    obtain ⟨day, hday, hle⟩ := startDate_le_of_eval (looksAt_transaction search field t) h hmatch
    cases hday
    exact hle
  · intro p hmatch
    exact startDate_le_of_eval (looksAt_posting search field p) h hmatch

/-- A choice between food since June and everything since July starts in June. The posting has its
effective date from its transaction. -/
theorem startDate_le_date_of_choice :
    ∃ (first : Date) (q : Query) (p : LinkedPosting),
      first = ⟨2012, 6, 1, by decide, by decide, by decide⟩ ∧
      q = anyOf
        [allOf [test (.account "food"), test (.effectiveDate ⟨some first, none⟩)],
          test (.effectiveDate ⟨some ⟨2012, 7, 1, by decide, by decide, by decide⟩, none⟩)] ∧
      p = ⟨⟨"food", false, .regular, none⟩,
        some ⟨⟨2012, 6, 20, by decide, by decide, by decide⟩, "lunch", none, false⟩⟩ ∧
      startDate .effective q = some first ∧
      ∃ day, p.date? .effective = some day ∧ first ≤ day := by
  refine ⟨_, _, _, rfl, rfl, rfl, ?start,
    (startDate_le_date ?start fun pattern text => pattern == text).2 _ ?found⟩
  case start => decide
  case found => decide

end Query

end JournalSearch
