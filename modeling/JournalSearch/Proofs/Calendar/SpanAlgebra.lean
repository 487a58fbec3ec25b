import JournalSearch.Calendar.Span
import JournalSearch.Proofs.Calendar.DayCount
import Mathlib.Order.MinMax

/-!
Intersections and hulls of spans by their days. An intersection has the days that all spans have,
also when it is inverted, and it is open at both ends only if all spans are. A hull has the days
that one of the spans has. The earliest and the latest of several dates are treated with them.
-/
namespace JournalSearch.Calendar

/-- The earliest of several dates is set only if they all are, and then it is after none. -/
theorem exists_le_of_earliest {dates : List (Option Date)} {first : Date}
    (h : earliest dates = some first) : ∀ date? ∈ dates, ∃ day ∈ date?, first ≤ day := by
  induction dates generalizing first with
  | nil => exact List.forall_mem_nil _
  | cons date? dates ih =>
    cases dates with
    | nil =>
      rw [List.forall_mem_singleton]
      exact ⟨first, h, le_rfl⟩
    | cons second dates =>
      simp only [earliest, Option.bind_eq_bind, Option.pure_def, Option.bind_eq_some_iff,
        Option.some.injEq] at h
      obtain ⟨day, rfl, rest, hrest, rfl⟩ := h
      rw [List.forall_mem_cons]
      refine ⟨⟨day, rfl, min_le_iff.mpr (Or.inl (le_rfl))⟩, ?_⟩
      intro other hother
      obtain ⟨later, hlater, hle⟩ := ih hrest other hother
      exact ⟨later, hlater, min_le_iff.mpr (Or.inr hle)⟩

/-- The latest of several dates is one of those that are set. -/
theorem mem_of_latest {dates : List (Option Date)} {last : Date} (h : latest dates = some last) :
    some last ∈ dates := by
  induction dates generalizing last with
  | nil => cases h
  | cons date? dates ih =>
    rw [latest, List.foldr_cons, Option.merge_eq_some_iff] at h
    rcases h with ⟨rfl, -⟩ | ⟨-, hrest⟩ | ⟨day, other, rfl, hrest, hmax⟩
    · exact List.mem_cons_self
    · exact List.mem_cons_of_mem _ (ih hrest)
    · rcases max_choice day other with hday | hother
      · rw [← hmax, hday]
        exact List.mem_cons_self
      · rw [← hmax, hother]
        exact List.mem_cons_of_mem _ (ih hrest)

namespace Span

@[simp]
theorem isUnbounded_iff (s : Span) : s.isUnbounded = true ↔ s = unbounded := by
  obtain ⟨start, finish⟩ := s
  simp [isUnbounded, unbounded]

/-- A bound that is missing excludes no day. -/
theorem contains_iff (s : Span) (day : Date) :
    s.contains day = true ↔
      (∀ first ∈ s.start, first ≤ day) ∧ ∀ stop ∈ s.finish, day < stop := by
  obtain ⟨start, finish⟩ := s
  cases start <;> cases finish <;> simp [contains]

@[simp]
theorem contains_unbounded (day : Date) : unbounded.contains day = true := by
  simp [contains_iff, unbounded]

theorem forall_mem_merge_max (a b : Option Date) (day : Date) :
    (∀ first ∈ a.merge max b, first ≤ day) ↔
      (∀ first ∈ a, first ≤ day) ∧ ∀ first ∈ b, first ≤ day := by
  cases a <;> cases b <;> simp

theorem forall_mem_merge_min (a b : Option Date) (day : Date) :
    (∀ stop ∈ a.merge min b, day < stop) ↔
      (∀ stop ∈ a, day < stop) ∧ ∀ stop ∈ b, day < stop := by
  cases a <;> cases b <;> simp

theorem contains_inter (a b : Span) (day : Date) :
    (a.inter b).contains day = (a.contains day && b.contains day) := by
  rw [Bool.eq_iff_iff, Bool.and_eq_true, contains_iff, contains_iff, contains_iff]
  rw [inter, forall_mem_merge_max, forall_mem_merge_min]
  exact and_and_and_comm

theorem isUnbounded_inter (a b : Span) :
    (a.inter b).isUnbounded = (a.isUnbounded && b.isUnbounded) := by
  obtain ⟨start, finish⟩ := a
  obtain ⟨start', finish'⟩ := b
  cases start <;> cases start' <;> cases finish <;> cases finish' <;> rfl

theorem foldl_inter_eq_all (P : Span → Bool) (hinter : ∀ a b, P (a.inter b) = (P a && P b))
    (spans : List Span) (s : Span) : P (spans.foldl inter s) = (P s && spans.all P) := by
  induction spans generalizing s with
  | nil => simp
  | cons a spans ih => rw [List.foldl_cons, ih, hinter, List.all_cons, Bool.and_assoc]

/-- What an intersection has exactly if both spans have it, the intersection of a list has exactly
if all members have it. -/
theorem interAll_eq_all (P : Span → Bool) (hopen : P unbounded = true)
    (hinter : ∀ a b, P (a.inter b) = (P a && P b)) (spans : List Span) :
    P (interAll spans) = spans.all P := by
  rw [interAll, foldl_inter_eq_all P hinter, hopen, Bool.true_and]

theorem isUnbounded_interAll (spans : List Span) :
    (interAll spans).isUnbounded = spans.all isUnbounded :=
  interAll_eq_all isUnbounded rfl isUnbounded_inter spans

theorem contains_hull {a b : Span} {day : Date}
    (h : a.contains day = true ∨ b.contains day = true) : (a.hull b).contains day = true := by
  simp only [contains_iff, hull] at *
  constructor
  · intro first hfirst
    obtain ⟨early, hearly, late, hlate, rfl⟩ := by simpa [Option.bind_eq_some_iff] using hfirst
    exact min_le_iff.mpr (h.imp (·.1 early hearly) (·.1 late hlate))
  · intro stop hstop
    obtain ⟨early, hearly, late, hlate, rfl⟩ := by simpa [Option.bind_eq_some_iff] using hstop
    exact lt_max_iff.mpr (h.imp (·.2 early hearly) (·.2 late hlate))

theorem contains_foldl_hull {spans : List Span} {s : Span} {day : Date}
    (h : s.contains day = true ∨ ∃ a ∈ spans, a.contains day = true) :
    (spans.foldl hull s).contains day = true := by
  induction spans generalizing s with
  | nil => simpa using h
  | cons a spans ih =>
    apply ih
    simp only [List.mem_cons, exists_eq_or_imp, ← or_assoc] at h
    exact h.imp_left contains_hull

/-- The hull of several spans has each of their days, and that of no spans has all days. -/
theorem contains_hullAll {spans : List Span} {day : Date}
    (h : spans = [] ∨ ∃ s ∈ spans, s.contains day = true) :
    (hullAll spans).contains day = true := by
  cases spans with
  | nil => exact contains_unbounded day
  | cons s spans => exact contains_foldl_hull (by simpa using h)

end Span

end JournalSearch.Calendar
