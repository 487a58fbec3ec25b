import JournalSearch.Proofs.Calendar.DayCount

/-!
The periods of the calendar's units. A period goes from a first day of its unit to the next first
day, such as from a Monday to the Monday after. Each unit counts its periods: the count grows
along the calendar, and among the days of one count the first day is the earliest. So the periods
next to each other have counts that differ by one, the period that holds a day is the one of its
count, and stepping a whole number of units from a first day leads to the first day of the count
so far away.
-/
namespace JournalSearch.Calendar

open Outcome

namespace Date

variable {a b d e : Date}

def monthCount (d : Date) : Nat := 12 * d.year + (d.month - 1)

theorem lt_of_monthCount_lt (h : a.monthCount < b.monthCount) : a < b := by
  have ha := a.month_mem
  have hb := b.month_mem
  simp only [monthCount] at h
  rcases Nat.lt_or_ge a.year b.year with hyear | hyear
  · exact lt_of_year_lt hyear
  · have hsame : a.year = b.year := by omega
    exact lt_of_month_lt hsame (by omega)

theorem monthCount_le (h : a ≤ b) : a.monthCount ≤ b.monthCount := by
  by_contra hlt
  exact h.not_gt (lt_of_monthCount_lt (Nat.lt_of_not_le hlt))

theorem monthCount_lt_of_lt (hb : b.day = 1) (h : a < b) : a.monthCount < b.monthCount := by
  refine Nat.lt_of_le_of_ne (monthCount_le h.le) fun hsame => ?_
  have ha := a.month_mem
  have hb' := b.month_mem
  have hday := a.day_mem.1
  simp only [monthCount] at hsame
  have hyear : a.year = b.year := by omega
  have hmonth : a.month = b.month := by omega
  rw [lt_iff, dayNumber_eq, dayNumber_eq, hyear, hmonth] at h
  omega

/-- Stepping by months from the first day of a month leads to the first day of a month. -/
theorem addMonths_eq_ok_iff (hd : d.day = 1) (count : Int) :
    d.addMonths count = .ok e ↔ e.day = 1 ∧ (e.monthCount : Int) = d.monthCount + count := by
  have hmonth := d.month_mem
  have hcount : (12 * (d.year : Int) + ((d.month : Int) - 1) + count) = d.monthCount + count := by
    rw [monthCount]
    omega
  rw [addMonths]
  simp only [hcount, hd]
  generalize (d.monthCount : Int) + count = months
  have hquot : months.fdiv 12 = months / 12 := Int.fdiv_eq_ediv_of_nonneg _ (by decide)
  have hrem : months.fmod 12 = months % 12 := Int.fmod_eq_emod_of_nonneg _ (by decide)
  rw [hquot, hrem]
  have hinside : 1 ≤ (months % 12).toNat + 1 ∧ (months % 12).toNat + 1 ≤ 12 := by omega
  have hday : ∀ year, min 1 (daysInMonth year ((months % 12).toNat + 1)) = 1 :=
    fun year => Nat.min_eq_left (daysInMonth_pos hinside)
  have he := e.month_mem
  have hyear := e.year_mem
  split_ifs with hout
  · simp only [false_iff, not_and]
    intro _ hmonths
    rw [monthCount] at hmonths
    omega
  · rw [ofFields_eq_ok_iff, hday, monthCount]
    simp only [firstYear] at hout
    omega

/-- Every count between those of two days is that of the first day of a month. -/
theorem exists_monthCount_eq {n : Nat} (ha : a.monthCount ≤ n) (hb : n ≤ b.monthCount) :
    ∃ d : Date, d.day = 1 ∧ d.monthCount = n := by
  have hfirst := a.year_mem.1
  have hlast := b.year_mem.2
  have hmonth := b.month_mem
  simp only [monthCount] at ha hb
  have hinside : 1 ≤ n % 12 + 1 ∧ n % 12 + 1 ≤ 12 := by omega
  refine ⟨⟨n / 12, n % 12 + 1, 1, by omega, hinside, Nat.le_refl 1, daysInMonth_pos hinside⟩,
    rfl, ?_⟩
  simp only [monthCount]
  omega

end Date

namespace TimeUnit

/-- The days with which the periods of a unit begin. -/
def IsFirst : TimeUnit → Date → Prop
  | day, _ => True
  | week, d => d.weekday = 0
  | month, d => d.day = 1
  | quarter, d => (d.month = 1 ∨ d.month = 4 ∨ d.month = 7 ∨ d.month = 10) ∧ d.day = 1
  | year, d => d.month = 1 ∧ d.day = 1

/-- A period of the unit starts with the one day and finishes before the other. -/
structure IsPeriod (u : TimeUnit) (start finish : Date) : Prop where
  first_start : u.IsFirst start
  first_finish : u.IsFirst finish
  lt : start < finish
  between : ∀ d, start < d → d < finish → ¬u.IsFirst d

/-- The periods of a unit in a row, by their days. -/
def ordinal : TimeUnit → Date → Nat
  | day, d => d.dayNumber
  | week, d => (d.dayNumber + 6) / 7
  | month, d => d.monthCount
  | quarter, d => d.monthCount / 3
  | year, d => d.monthCount / 12

variable {u : TimeUnit} {d e s f s' f' : Date}

theorem ordinal_le (u : TimeUnit) (h : d ≤ e) : u.ordinal d ≤ u.ordinal e := by
  have hmonths := Date.monthCount_le h
  rw [Date.le_iff] at h
  cases u with
  | day => exact h
  | week => exact Nat.div_le_div_right (Nat.add_le_add_right h 6)
  | month => exact hmonths
  | quarter => exact Nat.div_le_div_right hmonths
  | year => exact Nat.div_le_div_right hmonths

theorem isFirst_quarter_iff : quarter.IsFirst d ↔ d.monthCount % 3 = 0 ∧ d.day = 1 := by
  have hmonth := d.month_mem
  rw [IsFirst, Date.monthCount]
  omega

theorem isFirst_year_iff : year.IsFirst d ↔ d.monthCount % 12 = 0 ∧ d.day = 1 := by
  have hmonth := d.month_mem
  rw [IsFirst, Date.monthCount]
  omega

/-- All earlier days belong to earlier periods. -/
theorem IsFirst.ordinal_lt (hd : u.IsFirst d) (h : e < d) : u.ordinal e < u.ordinal d := by
  cases u with
  | day => exact h
  | week =>
    rw [IsFirst, Date.weekday] at hd
    rw [Date.lt_iff] at h
    simp only [ordinal]
    omega
  | month => exact Date.monthCount_lt_of_lt hd h
  | quarter =>
    have hlt := Date.monthCount_lt_of_lt hd.2 h
    have hmod := (isFirst_quarter_iff.mp hd).1
    simp only [ordinal]
    omega
  | year =>
    have hlt := Date.monthCount_lt_of_lt hd.2 h
    have hmod := (isFirst_year_iff.mp hd).1
    simp only [ordinal]
    omega

/-- A period has one first day. -/
theorem IsFirst.eq_of_ordinal_eq (hs : u.IsFirst s) (hs' : u.IsFirst s')
    (h : u.ordinal s = u.ordinal s') : s = s' := by
  rcases lt_trichotomy s s' with hlt | heq | hgt
  · have hless := hs'.ordinal_lt hlt
    omega
  · exact heq
  · have hless := hs.ordinal_lt hgt
    omega

theorem startOfMonth_le {month : Nat} (h : 1 ≤ month ∧ month ≤ 12) (hle : month ≤ d.month) :
    startOfMonth d month h ≤ d := by
  have hmono := daysBeforeMonth_mono d.year hle
  have hday := d.day_mem.1
  rw [Date.le_iff, Date.dayNumber_eq, Date.dayNumber_eq]
  simp only [startOfMonth]
  omega

/-- The first day of the period in which a day lies. -/
theorem startOf_spec (u : TimeUnit) (d : Date) :
    u.IsFirst (u.startOf d) ∧ u.startOf d ≤ d ∧ u.ordinal (u.startOf d) = u.ordinal d := by
  have hmonth := d.month_mem
  cases u with
  | day => exact ⟨trivial, le_refl d, rfl⟩
  | week =>
    have hpos := d.dayNumber_pos
    have hback : d.weekday < d.dayNumber := by
      rw [Date.weekday]
      omega
    have hstep := dayNumber_stepBack d.weekday hback
    simp only [Date.le_iff, IsFirst, startOf, ordinal, Date.weekday] at *
    omega
  | month => exact ⟨rfl, startOfMonth_le _ (Nat.le_refl _), rfl⟩
  | quarter =>
    refine ⟨⟨?_, rfl⟩, startOfMonth_le _ ?_, ?_⟩
    · simp only [startOf, startOfMonth]
      omega
    · omega
    · simp only [ordinal, startOf, startOfMonth, Date.monthCount]
      omega
  | year =>
    refine ⟨⟨rfl, rfl⟩, startOfMonth_le _ hmonth.1, ?_⟩
    simp only [ordinal, startOf, startOfMonth, Date.monthCount]
    omega

/-- A step of whole units from a first day leads to the first day so many periods away. -/
theorem shift_eq_ok_iff (hd : u.IsFirst d) (count : Int) :
    u.shift count d = .ok e ↔ u.IsFirst e ∧ (u.ordinal e : Int) = u.ordinal d + count := by
  cases u with
  | day =>
    rw [shift, Date.addDays_eq_ok_iff]
    exact ⟨fun h => ⟨trivial, h⟩, And.right⟩
  | week =>
    rw [shift, Date.addDays_eq_ok_iff]
    simp only [IsFirst, Date.weekday, ordinal] at *
    omega
  | month => exact Date.addMonths_eq_ok_iff hd count
  | quarter =>
    rw [isFirst_quarter_iff] at *
    rw [shift, Date.addMonths_eq_ok_iff hd.2]
    simp only [ordinal]
    omega
  | year =>
    rw [isFirst_year_iff] at *
    rw [shift, Date.addMonths_eq_ok_iff hd.2]
    simp only [ordinal]
    omega

/-- No period is left out between two first days. -/
theorem exists_isFirst_ordinal_eq {n : Nat} (hs : u.IsFirst s) (hf : u.IsFirst f)
    (hlo : u.ordinal s ≤ n) (hhi : n ≤ u.ordinal f) : ∃ d, u.IsFirst d ∧ u.ordinal d = n := by
  cases u with
  | day =>
    obtain ⟨d, hd⟩ := Date.exists_dayNumber_eq hlo hhi
    exact ⟨d, trivial, hd⟩
  | week =>
    simp only [IsFirst, Date.weekday, ordinal] at *
    obtain ⟨d, hd⟩ := Date.exists_dayNumber_eq (a := s) (b := f) (n := 7 * n - 6)
      (by omega) (by omega)
    have hpos := d.dayNumber_pos
    exact ⟨d, by omega, by omega⟩
  | month => exact Date.exists_monthCount_eq hlo hhi
  | quarter =>
    rw [isFirst_quarter_iff] at hs hf
    simp only [ordinal] at *
    obtain ⟨d, hday, hd⟩ := Date.exists_monthCount_eq (a := s) (b := f) (n := 3 * n)
      (by omega) (by omega)
    exact ⟨d, isFirst_quarter_iff.mpr ⟨by omega, hday⟩, by omega⟩
  | year =>
    rw [isFirst_year_iff] at hs hf
    simp only [ordinal] at *
    obtain ⟨d, hday, hd⟩ := Date.exists_monthCount_eq (a := s) (b := f) (n := 12 * n)
      (by omega) (by omega)
    exact ⟨d, isFirst_year_iff.mpr ⟨by omega, hday⟩, by omega⟩

theorem lt_of_ordinal_lt (u : TimeUnit) (h : u.ordinal d < u.ordinal e) : d < e := by
  by_contra hle
  have hge := ordinal_le u (not_lt.mp hle)
  omega

/-- One period follows another if its count does. -/
theorem isPeriod_iff :
    u.IsPeriod s f ↔ u.IsFirst s ∧ u.IsFirst f ∧ u.ordinal f = u.ordinal s + 1 := by
  constructor
  · rintro ⟨hs, hf, hlt, hbetween⟩
    have hless := hf.ordinal_lt hlt
    refine ⟨hs, hf, ?_⟩
    by_contra hne
    obtain ⟨d, hd, hordinal⟩ := exists_isFirst_ordinal_eq hs hf (Nat.le_add_right _ 1) hless
    exact hbetween d (lt_of_ordinal_lt u (by omega)) (lt_of_ordinal_lt u (by omega)) hd
  · rintro ⟨hs, hf, hordinal⟩
    refine ⟨hs, hf, lt_of_ordinal_lt u (by omega), ?_⟩
    intro d hsd hdf hd
    have hlo := hd.ordinal_lt hsd
    have hhi := hf.ordinal_lt hdf
    omega

/-- The days of a period are those of its count. -/
theorem IsPeriod.mem_iff (h : u.IsPeriod s f) : s ≤ d ∧ d < f ↔ u.ordinal d = u.ordinal s := by
  obtain ⟨hs, hf, hordinal⟩ := isPeriod_iff.mp h
  constructor
  · rintro ⟨hsd, hdf⟩
    have hlo := ordinal_le u hsd
    have hhi := hf.ordinal_lt hdf
    omega
  · intro hsame
    refine ⟨?_, lt_of_ordinal_lt u (by omega)⟩
    by_contra hds
    have hlt := hs.ordinal_lt (not_le.mp hds)
    omega

/-- The period of a day has a span exactly if the calendar has the day on which it finishes. -/
theorem periodOf_eq_ok_iff {span : Span} :
    u.periodOf d = .ok span ↔
      ∃ s f, u.IsPeriod s f ∧ s ≤ d ∧ d < f ∧ span = ⟨some s, some f⟩ := by
  obtain ⟨hfirst, hle, hordinal⟩ := startOf_spec u d
  simp only [periodOf, bind_eq_ok_iff, pure_eq_ok_iff, shift_eq_ok_iff hfirst]
  constructor
  · rintro ⟨f, ⟨hf, hnext⟩, rfl⟩
    have hperiod : u.IsPeriod (u.startOf d) f := isPeriod_iff.mpr ⟨hfirst, hf, by omega⟩
    obtain ⟨hsd, hdf⟩ := hperiod.mem_iff.mpr hordinal.symm
    exact ⟨_, f, hperiod, hsd, hdf, rfl⟩
  · rintro ⟨s, f, hperiod, hsd, hdf, rfl⟩
    have hsame := hperiod.mem_iff.mp ⟨hsd, hdf⟩
    obtain ⟨hs, hf, hnext⟩ := isPeriod_iff.mp hperiod
    obtain rfl := hs.eq_of_ordinal_eq hfirst (by omega)
    exact ⟨f, ⟨hf, by omega⟩, rfl⟩

theorem periodOf_eq_ok_iff_of_isFirst {span : Span} (hd : u.IsFirst d) :
    u.periodOf d = .ok span ↔ ∃ f, u.IsPeriod d f ∧ span = ⟨some d, some f⟩ := by
  rw [periodOf_eq_ok_iff]
  constructor
  · rintro ⟨s, f, hperiod, hsd, hdf, rfl⟩
    have hsame := hperiod.mem_iff.mp ⟨hsd, hdf⟩
    obtain rfl := hd.eq_of_ordinal_eq hperiod.first_start hsame
    exact ⟨f, hperiod, rfl⟩
  · rintro ⟨f, hperiod, rfl⟩
    obtain ⟨hdd, hdf⟩ := hperiod.mem_iff.mpr rfl
    exact ⟨d, f, hperiod, hdd, hdf, rfl⟩

/-- A period so many periods away from the one in which a day lies. -/
theorem periodNear_eq_ok_iff {count : Int} {span : Span} :
    u.periodNear count d = .ok span ↔
      ∃ s₀ f₀ s f, u.IsPeriod s₀ f₀ ∧ s₀ ≤ d ∧ d < f₀ ∧ u.IsPeriod s f ∧
        (u.ordinal s : Int) = u.ordinal s₀ + count ∧ span = ⟨some s, some f⟩ := by
  obtain ⟨hfirst, hle, hordinal⟩ := startOf_spec u d
  simp only [periodNear, bind_eq_ok_iff, periodOf_eq_ok_iff, shift_eq_ok_iff hfirst]
  constructor
  · rintro ⟨_, ⟨s₀, f₀, hperiod₀, hsd, hdf, rfl⟩, e, ⟨he, hcount⟩, s, f, hperiod, hse, hef, rfl⟩
    have hsame₀ := hperiod₀.mem_iff.mp ⟨hsd, hdf⟩
    have hsame := hperiod.mem_iff.mp ⟨hse, hef⟩
    exact ⟨s₀, f₀, s, f, hperiod₀, hsd, hdf, hperiod, by omega, rfl⟩
  · rintro ⟨s₀, f₀, s, f, hperiod₀, hsd, hdf, hperiod, hcount, rfl⟩
    have hsame₀ := hperiod₀.mem_iff.mp ⟨hsd, hdf⟩
    obtain ⟨hss, hsf⟩ := hperiod.mem_iff.mpr rfl
    exact ⟨_, ⟨s₀, f₀, hperiod₀, hsd, hdf, rfl⟩, s, ⟨hperiod.first_start, by omega⟩, s, f, hperiod,
      hss, hsf, rfl⟩

end TimeUnit

end JournalSearch.Calendar
