import JournalSearch.Proofs.Outcome
import JournalSearch.Proofs.Period.Grammar

/-!
What dates denote. The reader of dates gives the period of the day that it makes out, and that day
is the first of its period wherever the date gives it by number or name. So the span is the one
that the date denotes, or there is none in the calendar.
-/
namespace JournalSearch.Period.SmartDate

open Calendar (Date DateError Span TimeUnit)
open Outcome

variable {reference : Date} {span : Span} {y m d : Nat} {u : TimeUnit}

/-- The period that begins with a day given by its numbers. -/
theorem periodFrom_eq_ok_iff (hfirst : ∀ s : Date, s.month = m → s.day = d → u.IsFirst s) :
    (Date.ofFields y m d >>= u.periodOf) = .ok span ↔
      ∃ s f, u.IsPeriod s f ∧ s.year = y ∧ s.month = m ∧ s.day = d ∧ span = ⟨some s, some f⟩ := by
  simp only [bind_eq_ok_iff, Date.ofFields_eq_ok_iff]
  constructor
  · rintro ⟨s, ⟨hyear, hmonth, hday⟩, h⟩
    obtain ⟨f, hperiod, hspan⟩ :=
      (TimeUnit.periodOf_eq_ok_iff_of_isFirst (hfirst s hmonth hday)).mp h
    exact ⟨s, f, hperiod, hyear, hmonth, hday, hspan⟩
  · rintro ⟨s, f, hperiod, hyear, hmonth, hday, hspan⟩
    refine ⟨s, ⟨hyear, hmonth, hday⟩, ?_⟩
    exact (TimeUnit.periodOf_eq_ok_iff_of_isFirst hperiod.first_start).mpr ⟨f, hperiod, hspan⟩

/-- The day that is so many days away is the first of its period. -/
theorem daysAway_eq_ok_iff {count : Int} :
    (daysAway count).resolve reference = .ok span ↔
      ∃ s f, TimeUnit.day.IsPeriod s f ∧ (s.dayNumber : Int) = reference.dayNumber + count ∧
        span = ⟨some s, some f⟩ := by
  simp only [resolve, bind_eq_ok_iff, Date.addDays_eq_ok_iff]
  constructor
  · rintro ⟨s, haway, h⟩
    have hfirst : TimeUnit.day.IsFirst s := trivial
    obtain ⟨f, hperiod, hspan⟩ := (TimeUnit.periodOf_eq_ok_iff_of_isFirst hfirst).mp h
    exact ⟨s, f, hperiod, haway, hspan⟩
  · rintro ⟨s, f, hperiod, haway, hspan⟩
    refine ⟨s, haway, ?_⟩
    exact (TimeUnit.periodOf_eq_ok_iff_of_isFirst hperiod.first_start).mpr ⟨f, hperiod, hspan⟩

/-- The period of the reference date and its neighbours. -/
theorem periodNear_eq_ok_iff_denotes {count : Int} (hcount : count = 0 ∨ count = -1 ∨ count = 1) :
    u.periodNear count reference = .ok span ↔
      ∃ s f, Denotes reference (periodsAway count u) s f ∧ span = ⟨some s, some f⟩ := by
  rw [TimeUnit.periodNear_eq_ok_iff]
  constructor
  · rintro ⟨s₀, f₀, s, f, hperiod₀, hs, hf, hperiod, haway, rfl⟩
    obtain ⟨hfirst, hfirst', hnext⟩ := TimeUnit.isPeriod_iff.mp hperiod
    obtain ⟨hfirst₀, hfirst₀', hnext₀⟩ := TimeUnit.isPeriod_iff.mp hperiod₀
    refine ⟨s, f, ?_, rfl⟩
    rcases hcount with rfl | rfl | rfl
    · obtain rfl := hfirst.eq_of_ordinal_eq hfirst₀ (by omega)
      exact .this hperiod hs (hfirst'.eq_of_ordinal_eq hfirst₀' (by omega) ▸ hf)
    · obtain rfl := hfirst'.eq_of_ordinal_eq hfirst₀ (by omega)
      exact .last hperiod₀ hs hf hperiod
    · obtain rfl := hfirst.eq_of_ordinal_eq hfirst₀' (by omega)
      exact .next hperiod₀ hs hf hperiod
  · rintro ⟨s, f, hdenotes, rfl⟩
    cases hdenotes with
    | this h hs hf => exact ⟨s, f, s, f, h, hs, hf, h, by omega, rfl⟩
    | last h hs hf hbefore =>
      obtain ⟨-, -, hnext⟩ := TimeUnit.isPeriod_iff.mp hbefore
      exact ⟨_, _, _, _, h, hs, hf, hbefore, by omega, rfl⟩
    | next h hs hf hafter =>
      obtain ⟨-, -, hnext⟩ := TimeUnit.isPeriod_iff.mp h
      exact ⟨_, _, _, _, h, hs, hf, hafter, by omega, rfl⟩

theorem denotes_month_iff {s f : Date} :
    Denotes reference (month m) s f ↔
      TimeUnit.month.IsPeriod s f ∧ s.year = reference.year ∧ s.month = m := by
  constructor
  · intro h
    cases h with
    | month hperiod hyear => exact ⟨hperiod, hyear, rfl⟩
  · rintro ⟨hperiod, hyear, rfl⟩
    exact .month hperiod hyear

/-- A date has a span exactly if the calendar has the period that it denotes. -/
theorem resolve_eq_ok_iff {text : String} {date : SmartDate} (hdate : IsDate text date) :
    date.resolve reference = .ok span ↔
      ∃ s f, date.Denotes reference s f ∧ span = ⟨some s, some f⟩ := by
  cases hdate with
  | yearMonthDay =>
    rw [resolve, periodFrom_eq_ok_iff (u := .day) fun _ _ _ => trivial]
    constructor
    · rintro ⟨s, f, h, rfl, rfl, rfl, rfl⟩
      exact ⟨s, f, .yearMonthDay h, rfl⟩
    · rintro ⟨s, f, hdenotes, rfl⟩
      cases hdenotes with
      | yearMonthDay h => exact ⟨s, f, h, rfl, rfl, rfl, rfl⟩
  | yearMonth =>
    rw [resolve, periodFrom_eq_ok_iff (u := .month) fun _ _ hday => hday]
    constructor
    · rintro ⟨s, f, h, rfl, rfl, -, rfl⟩
      exact ⟨s, f, .yearMonth h, rfl⟩
    · rintro ⟨s, f, hdenotes, rfl⟩
      cases hdenotes with
      | yearMonth h => exact ⟨s, f, h, rfl, rfl, h.first_start, rfl⟩
  | year =>
    rw [resolve, periodFrom_eq_ok_iff (u := .year) fun _ hmonth hday => ⟨hmonth, hday⟩]
    constructor
    · rintro ⟨s, f, h, rfl, -, -, rfl⟩
      exact ⟨s, f, .year h, rfl⟩
    · rintro ⟨s, f, hdenotes, rfl⟩
      cases hdenotes with
      | year h => exact ⟨s, f, h, rfl, h.first_start.1, h.first_start.2, rfl⟩
  | monthDay =>
    rw [resolve, periodFrom_eq_ok_iff (u := .day) fun _ _ _ => trivial]
    constructor
    · rintro ⟨s, f, h, hyear, rfl, rfl, rfl⟩
      exact ⟨s, f, .monthDay h hyear, rfl⟩
    · rintro ⟨s, f, hdenotes, rfl⟩
      cases hdenotes with
      | monthDay h hyear => exact ⟨s, f, h, hyear, rfl, rfl, rfl⟩
  | month =>
    rw [resolve, periodFrom_eq_ok_iff (u := .month) fun _ _ hday => hday]
    constructor
    · rintro ⟨s, f, h, hyear, hmonth, -, rfl⟩
      exact ⟨s, f, denotes_month_iff.mpr ⟨h, hyear, hmonth⟩, rfl⟩
    · rintro ⟨s, f, hdenotes, rfl⟩
      obtain ⟨h, hyear, hmonth⟩ := denotes_month_iff.mp hdenotes
      exact ⟨s, f, h, hyear, hmonth, h.first_start, rfl⟩
  | daysAway =>
    rw [daysAway_eq_ok_iff]
    constructor
    · rintro ⟨s, f, h, haway, rfl⟩
      exact ⟨s, f, .daysAway h haway, rfl⟩
    · rintro ⟨s, f, hdenotes, rfl⟩
      cases hdenotes with
      | daysAway h haway => exact ⟨s, f, h, haway, rfl⟩
  | periodsAway hrelative =>
    refine periodNear_eq_ok_iff_denotes ?_
    simp only [relativeNames, List.mem_cons, Prod.mk.injEq, List.not_mem_nil, or_false] at hrelative
    omega

end JournalSearch.Period.SmartDate
