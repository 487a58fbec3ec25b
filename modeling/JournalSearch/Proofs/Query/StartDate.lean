import JournalSearch.Proofs.Calendar.SpanBounds
import JournalSearch.Proofs.Query.Dates
import JournalSearch.Proofs.Query.Settling

/-!
Start dates of simplified queries. The start of a conjunction is the latest start of its terms, so
terms without a start, the order of terms and their number make no difference, and the intersection
of spans starts with the last of them. The start of a choice is the earliest start, and a term
without one decides; what a pass drops from a choice matches nothing, and only there a start date
could change. So passes keep the start date of a query that exposes no such term.
-/
namespace JournalSearch.Query

open Calendar (Span earliest latest)

variable {field : DateField} {settle : Query → Query}

theorem startDates_eq_map (qs : List Query) : startDates field qs = qs.map (startDate field) := by
  induction qs with
  | nil => rfl
  | cons q qs ih => rw [startDates, ih, List.map_cons]

theorem startDates_of_same {q : Query} {qs : List Query} (hsame : ∀ r ∈ qs, r = q) :
    ∀ date? ∈ startDates field qs, date? = startDate field q := by
  intro date? hdate
  obtain ⟨r, hr, rfl⟩ := mem_startDates.mp hdate
  rw [hsame r hr]

theorem startDate_allOf_of_same {q : Query} {qs : List Query} (hq : q ∈ qs)
    (hsame : ∀ r ∈ qs, r = q) : startDate field (allOf qs) = startDate field q :=
  Calendar.latest_of_forall_eq (mem_startDates.mpr ⟨q, hq, rfl⟩) (startDates_of_same hsame)

theorem startDate_anyOf_of_same {q : Query} {qs : List Query} (hq : q ∈ qs)
    (hsame : ∀ r ∈ qs, r = q) : startDate field (anyOf qs) = startDate field q :=
  Calendar.earliest_of_forall_eq (mem_startDates.mpr ⟨q, hq, rfl⟩) (startDates_of_same hsame)

/-- Tests for dates start when the last of them does, whichever date is asked for. -/
theorem startDate_allOf_dates (spans : List Span) :
    startDate field (allOf (spans.map fun s => test (.date s))) =
      startDate field (test (.date (.interAll spans))) := by
  rw [startDate, startDates_eq_map, List.map_map]
  cases field with
  | actual => exact Calendar.latest_starts spans
  | effective => exact (Calendar.latest_eq_none_iff _).mpr (List.forall_mem_map.mpr fun _ _ => rfl)

theorem startDate_termsOfAll {f : Query → Query} {qs : List Query}
    (ih : ∀ q ∈ qs, startDate field (f q) = startDate field q) :
    startDate field (allOf ((datesToFront (qs.filter (· ≠ everything))).map f)) =
      startDate field (allOf qs) := by
  rw [startDate, startDate]
  apply Calendar.latest_congr
  intro day
  rw [mem_startDates, mem_startDates]
  constructor
  · rintro ⟨r, hr, hstart⟩
    obtain ⟨q, hq, rfl⟩ := List.mem_map.mp hr
    have hmem := (mem_datesToFront_filter.mp hq).1
    exact ⟨q, hmem, (ih q hmem).symm.trans hstart⟩
  · rintro ⟨q, hq, hstart⟩
    have hne : q ≠ everything := by
      rintro rfl
      cases hstart
    have hkept := mem_datesToFront_filter.mpr ⟨hq, hne⟩
    exact ⟨f q, List.mem_map_of_mem hkept, (ih q hq).trans hstart⟩

theorem startDate_termsOfAny {f : Query → Query} {qs : List Query} (hnothing : nothing ∉ qs)
    (ih : ∀ q ∈ qs, startDate field (f q) = startDate field q) :
    startDate field (anyOf ((qs.filter (· ≠ nothing)).map f)) = startDate field (anyOf qs) := by
  rw [filter_ne_eq_self hnothing, startDate, startDate, startDates_eq_map, startDates_eq_map,
    List.map_map]
  exact congrArg earliest (List.map_congr_left ih)

theorem startDate_anyOf_of_everything_mem {qs : List Query} (h : everything ∈ qs) :
    startDate field (anyOf qs) = none :=
  Calendar.earliest_eq_none_of_mem (mem_startDates.mpr ⟨everything, h, rfl⟩)

/-- A pass keeps the start date, unless the query exposes a term that matches nothing. -/
theorem startDate_reduceWith
    (hsettle : ∀ c, ¬Exposes c nothing → startDate field (settle c) = startDate field c)
    {q : Query} (hq : ¬Exposes q nothing) :
    startDate field (reduceWith settle q) = startDate field q := by
  induction q with
  | anyOf qs ih =>
    have hterms : ∀ q ∈ qs, startDate field (reduceWith settle q) = startDate field q :=
      fun q hmem => ih q hmem fun h => hq (.ofAnyOf hmem h)
    have hstep := reduces_anyOf settle qs
    generalize reduceWith settle (anyOf qs) = reduced at hstep ⊢
    cases hstep with
    | keep => rfl
    | noneOfAny => rfl
    | onlyOfAny q => exact hsettle q fun h => hq (.ofAnyOf List.mem_cons_self h)
    | oneOfAny _ q _ hmem hsame =>
      rw [hterms q hmem, startDate_anyOf_of_same hmem hsame]
    | everythingOfAny _ _ hmem => exact (startDate_anyOf_of_everything_mem hmem).symm
    | termsOfAny =>
      exact startDate_termsOfAny (fun hmem => hq (.ofAnyOf hmem (.self _))) hterms
  | allOf qs ih =>
    have hterms : ∀ q ∈ qs, startDate field (reduceWith settle q) = startDate field q :=
      fun q hmem => ih q hmem fun h => hq (.ofAllOf hmem h)
    have hstep := reduces_allOf settle qs
    generalize reduceWith settle (allOf qs) = reduced at hstep ⊢
    cases hstep with
    | keep => rfl
    | noneOfAll => rfl
    | oneOfAll _ q hmem hsame => rw [hterms q hmem, startDate_allOf_of_same hmem hsame]
    | nothingOfAll _ _ hmem => exact absurd (.ofAllOf hmem (.self _)) hq
    | datesOfAll spans => exact (startDate_allOf_dates spans).symm
    | termsOfAll => exact startDate_termsOfAll hterms
  | test t =>
    have hstep := reduces_reduceWith settle (test t)
    generalize reduceWith settle (test t) = reduced at hstep ⊢
    cases hstep with
    | keep => rfl
    | openDate => cases field <;> rfl
  | _ => rfl

/-- Simplification keeps both start dates of a query that exposes no term that matches nothing. -/
theorem startDate_simplify {q : Query} (hq : ¬Exposes q nothing) (field : DateField) :
    q.simplify.startDate field = q.startDate field := by
  refine rel_simplify_of_kept (P := fun q => ¬Exposes q nothing)
    (R := fun q r => startDate field r = startDate field q) ?_ ?_ ?_ ?_ hq
  · exact fun hless hq h => hq (hless nothing .nothing h)
  · exact fun q => rfl
  · exact fun hab hbc => hbc.trans hab
  · exact fun settle hsettle q hq => startDate_reduceWith hsettle hq

/-- A choice between March and June, under the start of the year and with nothing excluded. -/
theorem startDate_simplify_of_choice :
    ∃ q : Query,
      q = allOf
        [complement nothing, everything,
          test (.date ⟨some ⟨2012, 1, 1, by decide, by decide, by decide⟩, none⟩),
          anyOf [test (.date ⟨some ⟨2012, 6, 1, by decide, by decide, by decide⟩, none⟩),
            allOf [test (.date ⟨some ⟨2012, 3, 1, by decide, by decide, by decide⟩, none⟩)]]] ∧
      ¬Exposes q nothing ∧
      q.simplify.startDate .actual = some ⟨2012, 3, 1, by decide, by decide, by decide⟩ := by
  refine ⟨_, rfl, ?_⟩
  have hnothing : ¬Exposes
      (allOf
        [complement nothing, everything,
          test (.date ⟨some ⟨2012, 1, 1, by decide, by decide, by decide⟩, none⟩),
          anyOf [test (.date ⟨some ⟨2012, 6, 1, by decide, by decide, by decide⟩, none⟩),
            allOf [test (.date ⟨some ⟨2012, 3, 1, by decide, by decide, by decide⟩, none⟩)]]])
      nothing := by
    simp
  exact ⟨hnothing, (startDate_simplify hnothing .actual).trans (by decide)⟩

end JournalSearch.Query
