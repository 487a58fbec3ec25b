import JournalSearch.Period.Expression
import JournalSearch.Proofs.Calendar.SpanAlgebra
import JournalSearch.Proofs.Period.Dates

/-!
Periods that are named by their place against a reference date: this one, the last and the next one
of a unit, and the three days that have names of their own. A named period is the one whose count is
so far from the count of the reference date. So the periods follow each other without a gap, and
they are the same for all reference dates in one period.
-/
namespace JournalSearch.Calendar.TimeUnit

variable {u : TimeUnit} {d e s f s' f' : Date} {count : Int} {span : Span}

theorem IsPeriod.eq_of_ordinal_eq (h : u.IsPeriod s f) (h' : u.IsPeriod s' f')
    (hordinal : u.ordinal s = u.ordinal s') : s = s' ∧ f = f' := by
  obtain ⟨hs, hf, hnext⟩ := isPeriod_iff.mp h
  obtain ⟨hs', hf', hnext'⟩ := isPeriod_iff.mp h'
  exact ⟨hs.eq_of_ordinal_eq hs' hordinal, hf.eq_of_ordinal_eq hf' (by omega)⟩

/-- A period finishes where the one after it starts. -/
theorem IsPeriod.finish_eq_start (h : u.IsPeriod s f) (h' : u.IsPeriod s' f')
    (hordinal : u.ordinal s' = u.ordinal s + 1) : f = s' := by
  obtain ⟨-, hf, hnext⟩ := isPeriod_iff.mp h
  exact hf.eq_of_ordinal_eq h'.first_start (by omega)

theorem IsPeriod.contains_iff (h : u.IsPeriod s f) :
    Span.contains ⟨some s, some f⟩ d = true ↔ u.ordinal d = u.ordinal s := by
  rw [Span.contains_iff, ← h.mem_iff]
  simp

theorem startOf_eq_of_ordinal_eq (h : u.ordinal d = u.ordinal e) : u.startOf d = u.startOf e := by
  obtain ⟨hd, -, hordinal⟩ := startOf_spec u d
  obtain ⟨he, -, hordinal'⟩ := startOf_spec u e
  exact hd.eq_of_ordinal_eq he (by omega)

/-- Periods near a day are those near any day of the same period. -/
theorem periodNear_eq_of_ordinal_eq (h : u.ordinal d = u.ordinal e) (count : Int) :
    u.periodNear count d = u.periodNear count e := by
  simp only [periodNear, periodOf, startOf_eq_of_ordinal_eq h]

/-- The calendar must have the day's own period and the one whose count is so far away. -/
theorem periodNear_eq_ok_iff_ordinal :
    u.periodNear count d = .ok span ↔
      (∃ s f, u.IsPeriod s f ∧ u.ordinal s = u.ordinal d) ∧
        ∃ s f, u.IsPeriod s f ∧ (u.ordinal s : Int) = u.ordinal d + count ∧
          span = ⟨some s, some f⟩ := by
  rw [periodNear_eq_ok_iff]
  constructor
  · rintro ⟨s₀, f₀, s, f, hperiod₀, hs, hf, hperiod, hcount, hspan⟩
    have hsame := hperiod₀.mem_iff.mp ⟨hs, hf⟩
    exact ⟨⟨s₀, f₀, hperiod₀, hsame.symm⟩, s, f, hperiod, by omega, hspan⟩
  · rintro ⟨⟨s₀, f₀, hperiod₀, hsame⟩, s, f, hperiod, hcount, hspan⟩
    obtain ⟨hs, hf⟩ := hperiod₀.mem_iff.mpr hsame.symm
    exact ⟨s₀, f₀, s, f, hperiod₀, hs, hf, hperiod, by omega, hspan⟩

end JournalSearch.Calendar.TimeUnit

namespace JournalSearch.Period

open Calendar (Date Span TimeUnit)
open Outcome

def unitName : TimeUnit → String
  | .day => "day"
  | .week => "week"
  | .month => "month"
  | .quarter => "quarter"
  | .year => "year"

def placeText (place : String) (u : TimeUnit) : String := place ++ " " ++ unitName u

variable {reference other : Date} {u : TimeUnit} {place word : String} {count : Int}
  {found found' : Option Interval × Span}

theorem parse_placeText (h : (place, count) ∈ SmartDate.relativeNames) (u : TimeUnit) :
    parse reference (placeText place u) = do
      return (none,
        ← (u.periodNear count reference).mapError (.impossible (placeText place u))) := by
  simp only [SmartDate.relativeNames, List.mem_cons, Prod.mk.injEq, List.not_mem_nil,
    or_false] at h
  rcases h with ⟨rfl, rfl⟩ | ⟨rfl, rfl⟩ | ⟨rfl, rfl⟩ <;> cases u <;> rfl

theorem parse_dayName (h : (word, count) ∈ SmartDate.dayNames) :
    parse reference word = do
      return (none, ← ((SmartDate.daysAway count).resolve reference).mapError
        (.impossible word)) := by
  simp only [SmartDate.dayNames, List.mem_cons, Prod.mk.injEq, List.not_mem_nil, or_false] at h
  rcases h with ⟨rfl, rfl⟩ | ⟨rfl, rfl⟩ | ⟨rfl, rfl⟩ <;> rfl

/-- The period that is named by its place is the one whose count is so far away. -/
theorem parse_placeText_eq_ok_iff (h : (place, count) ∈ SmartDate.relativeNames) :
    parse reference (placeText place u) = .ok found ↔
      (∃ s f, u.IsPeriod s f ∧ u.ordinal s = u.ordinal reference) ∧
        ∃ s f, u.IsPeriod s f ∧ (u.ordinal s : Int) = u.ordinal reference + count ∧
          found = (none, ⟨some s, some f⟩) := by
  rw [parse_placeText h, bind_pure_eq_ok_iff]
  simp only [mapError_eq_ok_iff, TimeUnit.periodNear_eq_ok_iff_ordinal]
  constructor
  · rintro ⟨span, ⟨hown, s, f, hperiod, hcount, rfl⟩, rfl⟩
    exact ⟨hown, s, f, hperiod, hcount, rfl⟩
  · rintro ⟨hown, s, f, hperiod, hcount, rfl⟩
    exact ⟨_, ⟨hown, s, f, hperiod, hcount, rfl⟩, rfl⟩

theorem parse_placeText_congr (hplace : (place, count) ∈ SmartDate.relativeNames)
    (h : u.ordinal reference = u.ordinal other) :
    parse reference (placeText place u) = parse other (placeText place u) := by
  rw [parse_placeText hplace, parse_placeText hplace, TimeUnit.periodNear_eq_of_ordinal_eq h]

/-- A day by its own name is the same as by its place. -/
theorem eq_of_parse_dayName (hword : (word, count) ∈ SmartDate.dayNames)
    (hplace : (place, count) ∈ SmartDate.relativeNames) (h : parse reference word = .ok found)
    (h' : parse reference (placeText place .day) = .ok found') : found = found' := by
  rw [parse_dayName hword, bind_pure_eq_ok_iff] at h
  obtain ⟨span, hday, rfl⟩ := h
  obtain ⟨s, f, hperiod, haway, rfl⟩ :=
    SmartDate.daysAway_eq_ok_iff.mp (mapError_eq_ok_iff.mp hday)
  obtain ⟨-, s', f', hperiod', haway', rfl⟩ := (parse_placeText_eq_ok_iff hplace).mp h'
  have hordinal : TimeUnit.day.ordinal s = TimeUnit.day.ordinal s' :=
    Int.ofNat.inj (haway.trans haway'.symm)
  obtain ⟨rfl, rfl⟩ := hperiod.eq_of_ordinal_eq hperiod' hordinal
  rfl

theorem last_mem : ("last", -1) ∈ SmartDate.relativeNames := by decide

theorem this_mem : ("this", 0) ∈ SmartDate.relativeNames := by decide

theorem next_mem : ("next", 1) ∈ SmartDate.relativeNames := by decide

theorem yesterday_mem : ("yesterday", -1) ∈ SmartDate.dayNames := by decide

theorem today_mem : ("today", 0) ∈ SmartDate.dayNames := by decide

theorem tomorrow_mem : ("tomorrow", 1) ∈ SmartDate.dayNames := by decide

/-- The last, this and the next period of a unit are read exactly as three periods next to each
other, with the reference date in the second. -/
theorem parse_places_eq_ok_iff {earlier current later : Option Interval × Span} :
    parse reference (placeText "last" u) = .ok earlier ∧
        parse reference (placeText "this" u) = .ok current ∧
        parse reference (placeText "next" u) = .ok later ↔
      ∃ p s f n, u.IsPeriod p s ∧ u.IsPeriod s f ∧ u.IsPeriod f n ∧
        s ≤ reference ∧ reference < f ∧ earlier = (none, ⟨some p, some s⟩) ∧
        current = (none, ⟨some s, some f⟩) ∧ later = (none, ⟨some f, some n⟩) := by
  rw [parse_placeText_eq_ok_iff last_mem, parse_placeText_eq_ok_iff this_mem,
    parse_placeText_eq_ok_iff next_mem]
  constructor
  · rintro ⟨⟨-, p, s', hlast, hp, rfl⟩, ⟨-, s, f, hthis, hs, rfl⟩, -, f', n, hnext, hf, rfl⟩
    obtain rfl := hlast.finish_eq_start hthis (by omega)
    obtain rfl := hthis.finish_eq_start hnext (by omega)
    obtain ⟨hstart, hfinish⟩ := hthis.mem_iff (d := reference).mpr (by omega)
    exact ⟨p, s', f, n, hlast, hthis, hnext, hstart, hfinish, rfl, rfl, rfl⟩
  · rintro ⟨p, s, f, n, hlast, hthis, hnext, hstart, hfinish, rfl, rfl, rfl⟩
    have hsame := hthis.mem_iff.mp ⟨hstart, hfinish⟩
    obtain ⟨-, -, hs⟩ := TimeUnit.isPeriod_iff.mp hlast
    obtain ⟨-, -, hf⟩ := TimeUnit.isPeriod_iff.mp hthis
    have hown : ∃ s f, u.IsPeriod s f ∧ u.ordinal s = u.ordinal reference :=
      ⟨s, f, hthis, hsame.symm⟩
    exact ⟨⟨hown, p, s, hlast, by omega, rfl⟩, ⟨hown, s, f, hthis, by omega, rfl⟩,
      hown, f, n, hnext, by omega, rfl⟩

/-- The last, this and the next period of a unit lie next to each other, and the reference date in
the second. Two reference dates have the same period exactly if each lies in that of the other, and
then they have the same last and next one, too. Yesterday, today and tomorrow are the last, this and
the next day. -/
theorem places_tile (u : TimeUnit) (reference : Date) :
    (∀ earlier current later,
      parse reference (placeText "last" u) = .ok earlier ∧
          parse reference (placeText "this" u) = .ok current ∧
          parse reference (placeText "next" u) = .ok later ↔
        ∃ p s f n, u.IsPeriod p s ∧ u.IsPeriod s f ∧ u.IsPeriod f n ∧
          s ≤ reference ∧ reference < f ∧ earlier = (none, ⟨some p, some s⟩) ∧
          current = (none, ⟨some s, some f⟩) ∧ later = (none, ⟨some f, some n⟩)) ∧
      (∀ other current current',
        parse reference (placeText "this" u) = .ok current →
        parse other (placeText "this" u) = .ok current' →
          (current = current' ↔ current.2.contains other = true) ∧
          (current = current' ↔ current'.2.contains reference = true) ∧
          (current = current' → ∀ place ∈ ["last", "next"],
            parse reference (placeText place u) = parse other (placeText place u))) ∧
      ∀ word place,
        (word, place) ∈ [("yesterday", "last"), ("today", "this"), ("tomorrow", "next")] →
        ∀ found found', parse reference word = .ok found →
          parse reference (placeText place .day) = .ok found' → found = found' := by
  refine ⟨fun _ _ _ => parse_places_eq_ok_iff, ?_, ?_⟩
  · intro other current current' hcurrent hcurrent'
    obtain ⟨-, s, f, hperiod, hs, rfl⟩ := (parse_placeText_eq_ok_iff this_mem).mp hcurrent
    obtain ⟨-, s', f', hperiod', hs', rfl⟩ := (parse_placeText_eq_ok_iff this_mem).mp hcurrent'
    have hsame : ((none, ⟨some s, some f⟩) : Option Interval × Span) =
        (none, ⟨some s', some f'⟩) ↔ u.ordinal reference = u.ordinal other := by
      constructor
      · intro heq
        cases heq
        omega
      · intro hordinal
        obtain ⟨rfl, rfl⟩ := hperiod.eq_of_ordinal_eq hperiod' (by omega)
        rfl
    rw [hsame]
    refine ⟨?_, ?_, ?_⟩
    · rw [hperiod.contains_iff]
      omega
    · rw [hperiod'.contains_iff]
      omega
    · intro hordinal place hplace
      rcases List.mem_pair.mp hplace with rfl | rfl
      · exact parse_placeText_congr last_mem hordinal
      · exact parse_placeText_congr next_mem hordinal
  · intro word place hmem found found' h h'
    simp only [List.mem_cons, Prod.mk.injEq, List.not_mem_nil, or_false] at hmem
    rcases hmem with ⟨rfl, rfl⟩ | ⟨rfl, rfl⟩ | ⟨rfl, rfl⟩
    · exact eq_of_parse_dayName yesterday_mem last_mem h h'
    · exact eq_of_parse_dayName today_mem this_mem h h'
    · exact eq_of_parse_dayName tomorrow_mem next_mem h h'

/-- The week of the last day of 2012, in which the sixth of January lies too. -/
theorem places_tile_across_years :
    ∃ (reference other : Date) (earlier current later named : Option Interval × Span),
      reference = ⟨2012, 12, 31, by decide, by decide, by decide⟩ ∧
        other = ⟨2013, 1, 6, by decide, by decide, by decide⟩ ∧
        parse reference (placeText "last" .week) = .ok earlier ∧
        parse reference (placeText "this" .week) = .ok current ∧
        parse reference (placeText "next" .week) = .ok later ∧
        parse other (placeText "this" .week) = .ok current ∧
        parse reference "yesterday" = .ok named ∧
        earlier.2.finish = current.2.start ∧ current.2.finish = later.2.start ∧
        current.2.contains other = true ∧
        parse other (placeText "last" .week) = .ok earlier ∧
        parse reference (placeText "last" .day) = .ok named := by
  obtain ⟨reference, hreference⟩ : ∃ d : Date,
      d = ⟨2012, 12, 31, by decide, by decide, by decide⟩ := ⟨_, rfl⟩
  obtain ⟨other, hother⟩ : ∃ d : Date,
      d = ⟨2013, 1, 6, by decide, by decide, by decide⟩ := ⟨_, rfl⟩
  obtain ⟨earlier, current, later, named, placed, hearlier, hcurrent, hlater, hcurrent', hnamed,
      hplaced⟩ : ∃ earlier current later named placed,
        parse reference (placeText "last" .week) = .ok earlier ∧
          parse reference (placeText "this" .week) = .ok current ∧
          parse reference (placeText "next" .week) = .ok later ∧
          parse other (placeText "this" .week) = .ok current ∧
          parse reference "yesterday" = .ok named ∧
          parse reference (placeText "last" .day) = .ok placed := by
    subst hreference hother
    exact ⟨_, _, _, _, _, rfl, rfl, rfl, rfl, rfl, rfl⟩
  obtain ⟨htile, hsame, hnames⟩ := places_tile .week reference
  obtain ⟨hcontains, -, hnear⟩ := hsame other current current hcurrent hcurrent'
  obtain ⟨p, s, f, n, -, -, -, -, -, rfl, rfl, rfl⟩ :=
    (htile earlier current later).mp ⟨hearlier, hcurrent, hlater⟩
  obtain rfl := hnames "yesterday" "last" (by decide) named placed hnamed hplaced
  exact ⟨reference, other, _, _, _, named, hreference, hother, hearlier, hcurrent, hlater,
    hcurrent', hnamed, rfl, rfl, hcontains.mp rfl,
    (hnear rfl "last" (by decide)).symm.trans hearlier, hplaced⟩

end JournalSearch.Period
