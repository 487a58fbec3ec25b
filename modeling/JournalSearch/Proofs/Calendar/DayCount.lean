import JournalSearch.Calendar.TimeUnit
import JournalSearch.Proofs.Outcome
import Mathlib.Order.Basic

/-!
Days counted from the start of the calendar. The number of a day grows with its year, within a
year with its month and within a month with its day, so that it determines the date; a step along
the calendar changes it by one, and fails only at the two ends. Hence a date so many days away is
found exactly if the calendar has a day of that number.
-/
namespace JournalSearch.Calendar

open Outcome

theorem daysBeforeMonth_mono (year : Nat) {m n : Nat} (h : m ≤ n) :
    daysBeforeMonth year m ≤ daysBeforeMonth year n := by
  induction h with
  | refl => exact Nat.le_refl _
  | step _ ih => exact Nat.le_trans ih (Nat.le_add_right _ _)

theorem daysBeforeMonth_thirteen (year : Nat) :
    daysBeforeMonth year 13 = if isLeapYear year then 366 else 365 := by
  simp only [daysBeforeMonth, daysInMonth]
  split <;> rfl

theorem daysInMonth_le (year month : Nat) : daysInMonth year month ≤ 31 := by
  unfold daysInMonth
  repeat' split
  all_goals omega

theorem isLeapYear_iff (year : Nat) :
    isLeapYear year = true ↔ 4 ∣ year ∧ (¬100 ∣ year ∨ 400 ∣ year) := by
  simp [isLeapYear, Nat.dvd_iff_mod_eq_zero]

/-- A year has the days of its months. -/
theorem daysBeforeYear_succ {year : Nat} (h : firstYear ≤ year) :
    daysBeforeYear (year + 1) = daysBeforeYear year + daysBeforeMonth year 13 := by
  obtain ⟨past, rfl⟩ := Nat.exists_eq_add_of_le' (show 1 ≤ year from h)
  have hcenturies : past / 100 ≤ past / 4 := by omega
  have hdvd : 400 ∣ past + 1 → 100 ∣ past + 1 := Nat.dvd_trans (by decide)
  have hdvd' : 100 ∣ past + 1 → 4 ∣ past + 1 := Nat.dvd_trans (by decide)
  rw [daysBeforeMonth_thirteen]
  simp only [daysBeforeYear, Nat.add_sub_cancel, isLeapYear_iff, Nat.succ_div]
  split_ifs <;> grind

theorem daysBeforeYear_mono {y z : Nat} (hy : firstYear ≤ y) (h : y ≤ z) :
    daysBeforeYear y ≤ daysBeforeYear z := by
  induction h with
  | refl => exact Nat.le_refl _
  | @step z hle ih =>
    rw [Nat.succ_eq_add_one, daysBeforeYear_succ (Nat.le_trans hy hle)]
    exact Nat.le_trans ih (Nat.le_add_right _ _)

namespace Date

variable {a b d e : Date}

theorem december_mem : 1 ≤ 12 ∧ 12 ≤ 12 := by decide

def last : Date := ⟨lastYear, 12, 31, by decide, december_mem, by decide⟩

theorem dayNumber_eq (d : Date) :
    d.dayNumber = daysBeforeYear d.year + daysBeforeMonth d.year d.month + d.day := rfl

theorem dayNumber_le_of_month_lt {month : Nat} (d : Date) (h : d.month < month) :
    d.dayNumber ≤ daysBeforeYear d.year + daysBeforeMonth d.year month := by
  have hmono := daysBeforeMonth_mono d.year (Nat.succ_le_of_lt h)
  have hday := d.day_mem.2
  rw [dayNumber_eq]
  simp only [daysBeforeMonth] at hmono
  omega

theorem dayNumber_le_of_year_lt {year : Nat} (d : Date) (h : d.year < year) :
    d.dayNumber ≤ daysBeforeYear year := by
  have hyear := d.year_mem.1
  have hmono := daysBeforeYear_mono (Nat.le_succ_of_le hyear) (Nat.succ_le_of_lt h)
  have hmonth : d.month < 13 := Nat.lt_succ_of_le d.month_mem.2
  have hend := d.dayNumber_le_of_month_lt hmonth
  rw [Nat.succ_eq_add_one, daysBeforeYear_succ hyear] at hmono
  omega

theorem lt_of_year_lt (h : a.year < b.year) : a < b := by
  have hle := a.dayNumber_le_of_year_lt h
  have hday := b.day_mem.1
  have hb := b.dayNumber_eq
  rw [lt_iff]
  omega

theorem lt_of_month_lt (hyear : a.year = b.year) (hmonth : a.month < b.month) : a < b := by
  have hle := a.dayNumber_le_of_month_lt hmonth
  have hday := b.day_mem.1
  have hb := b.dayNumber_eq
  rw [hyear] at hle
  rw [lt_iff]
  omega

theorem eq_of_dayNumber_eq (h : a.dayNumber = b.dayNumber) : a = b := by
  have hyear : a.year = b.year := by
    rcases Nat.lt_trichotomy a.year b.year with hlt | heq | hgt
    · exact absurd (lt_iff.mp (lt_of_year_lt hlt)) (by omega)
    · exact heq
    · exact absurd (lt_iff.mp (lt_of_year_lt hgt)) (by omega)
  have hmonth : a.month = b.month := by
    rcases Nat.lt_trichotomy a.month b.month with hlt | heq | hgt
    · exact absurd (lt_iff.mp (lt_of_month_lt hyear hlt)) (by omega)
    · exact heq
    · exact absurd (lt_iff.mp (lt_of_month_lt hyear.symm hgt)) (by omega)
  have hday : a.day = b.day := by
    rw [dayNumber_eq, dayNumber_eq, hyear, hmonth] at h
    omega
  obtain ⟨y, m, d, hy, hm, hd⟩ := a
  obtain ⟨y', m', d', hy', hm', hd'⟩ := b
  cases hyear
  cases hmonth
  cases hday
  rfl

instance : LinearOrder Date where
  le_refl a := Nat.le_refl a.dayNumber
  le_trans _ _ _ := Nat.le_trans
  lt_iff_le_not_ge _ _ := Nat.lt_iff_le_and_not_ge
  le_antisymm _ _ hab hba := eq_of_dayNumber_eq (Nat.le_antisymm hab hba)
  le_total a b := Nat.le_total a.dayNumber b.dayNumber
  toDecidableLE := inferInstance

theorem dayNumber_pos (d : Date) : 0 < d.dayNumber := by
  have hday := d.day_mem.1
  rw [dayNumber_eq]
  omega

/-- A step forward is to the day of the next number. -/
theorem dayNumber_next? (h : d.next? = some e) : e.dayNumber = d.dayNumber + 1 := by
  have hyear := d.year_mem.1
  have hmonth := d.month_mem
  have hday := d.day_mem
  unfold next? at h
  split_ifs at h with hinner hmiddle houter
  · cases h
    simp only [dayNumber_eq]
    omega
  · cases h
    simp only [dayNumber_eq, daysBeforeMonth]
    omega
  · cases h
    have hlast : d.month = 12 := by omega
    have hsucc := daysBeforeYear_succ hyear
    rw [daysBeforeMonth] at hsucc
    simp only [dayNumber_eq, hlast] at *
    simp only [daysBeforeMonth, daysInMonth] at *
    omega

/-- A step back is to the day of the number before. -/
theorem dayNumber_prev? (h : d.prev? = some e) : e.dayNumber + 1 = d.dayNumber := by
  have hmonth := d.month_mem
  have hday := d.day_mem
  unfold prev? at h
  split_ifs at h with hinner hmiddle houter
  · cases h
    simp only [dayNumber_eq]
    omega
  · cases h
    obtain ⟨before, hbefore⟩ : ∃ before, d.month = before + 1 := ⟨d.month - 1, by omega⟩
    simp only [dayNumber_eq, hbefore, Nat.add_sub_cancel, daysBeforeMonth]
    omega
  · cases h
    have hfirst : d.month = 1 := by omega
    obtain ⟨past, hpast⟩ : ∃ past, d.year = past + 1 := ⟨d.year - 1, by omega⟩
    have hsucc := daysBeforeYear_succ (show firstYear ≤ past by rw [hpast] at houter; omega)
    simp only [dayNumber_eq, hfirst, hpast, Nat.add_sub_cancel] at *
    simp only [daysBeforeMonth, daysInMonth] at *
    omega

/-- The calendar goes on as long as there are later days. -/
theorem exists_next?_of_lt (h : d < e) : ∃ later, d.next? = some later := by
  have hday := d.day_mem
  have hmonth := d.month_mem
  unfold next?
  split_ifs with hinner hmiddle houter
  · exact ⟨_, rfl⟩
  · exact ⟨_, rfl⟩
  · exact ⟨_, rfl⟩
  · exfalso
    have hyear : e.year < d.year + 1 := by
      have he := e.year_mem.2
      omega
    have hbound := e.dayNumber_le_of_year_lt hyear
    have hsucc := daysBeforeYear_succ d.year_mem.1
    have hlast : d.month = 12 := by omega
    rw [daysBeforeMonth, ← hlast] at hsucc
    rw [lt_iff, dayNumber_eq] at h
    omega

/-- Only the first day of the calendar has none before it. -/
theorem exists_prev?_of_one_lt (h : 1 < d.dayNumber) : ∃ earlier, d.prev? = some earlier := by
  have hday := d.day_mem
  have hmonth := d.month_mem
  unfold prev?
  split_ifs with hinner hmiddle houter
  · exact ⟨_, rfl⟩
  · exact ⟨_, rfl⟩
  · exact ⟨_, rfl⟩
  · exfalso
    have hyear : d.year = 1 := by
      have hmem := d.year_mem.1
      have hfirst : firstYear = 1 := rfl
      omega
    rw [d.dayNumber_eq, hyear, show d.month = 1 by omega] at h
    simp only [daysBeforeYear, daysBeforeMonth, daysInMonth] at h
    omega

theorem daysAfter_eq_ok_iff (count : Nat) :
    daysAfter count d = .ok e ↔ e.dayNumber = d.dayNumber + count := by
  induction count generalizing d with
  | zero =>
    simp only [daysAfter, Except.ok.injEq]
    constructor
    · rintro rfl
      rfl
    · intro h
      exact (eq_of_dayNumber_eq h).symm
  | succ count ih =>
    rw [daysAfter]
    cases hnext : d.next? with
    | some later =>
      rw [ih, dayNumber_next? hnext]
      omega
    | none =>
      simp only [reduceCtorEq, false_iff]
      intro h
      obtain ⟨later, hlater⟩ := exists_next?_of_lt (lt_iff.mpr (by omega) : d < e)
      rw [hnext] at hlater
      cases hlater

theorem daysBefore_eq_ok_iff (count : Nat) :
    daysBefore count d = .ok e ↔ e.dayNumber + count = d.dayNumber := by
  induction count generalizing d with
  | zero =>
    simp only [daysBefore, Except.ok.injEq]
    constructor
    · rintro rfl
      rfl
    · intro h
      exact (eq_of_dayNumber_eq h).symm
  | succ count ih =>
    rw [daysBefore]
    cases hprev : d.prev? with
    | some earlier =>
      have hstep := dayNumber_prev? hprev
      rw [ih]
      omega
    | none =>
      simp only [reduceCtorEq, false_iff]
      intro h
      have hpos := e.dayNumber_pos
      obtain ⟨earlier, hearlier⟩ := exists_prev?_of_one_lt (show 1 < d.dayNumber by omega)
      rw [hprev] at hearlier
      cases hearlier

/-- The date so many days away is the one of that number, if there is one. -/
theorem addDays_eq_ok_iff (count : Int) :
    d.addDays count = .ok e ↔ (e.dayNumber : Int) = d.dayNumber + count := by
  cases count with
  | ofNat count =>
    rw [addDays, daysAfter_eq_ok_iff, Int.ofNat_eq_natCast]
    omega
  | negSucc count =>
    rw [addDays, daysBefore_eq_ok_iff]
    omega

/-- Every number between those of two days is the number of a day. -/
theorem exists_dayNumber_eq {n : Nat} (ha : a.dayNumber ≤ n) (hb : n ≤ b.dayNumber) :
    ∃ d : Date, d.dayNumber = n := by
  induction ha with
  | refl => exact ⟨a, rfl⟩
  | @step n hn ih =>
    obtain ⟨d, rfl⟩ := ih (Nat.le_of_succ_le hb)
    obtain ⟨later, hlater⟩ := exists_next?_of_lt (lt_iff.mpr hb : d < b)
    exact ⟨later, dayNumber_next? hlater⟩

theorem ofFields_eq_ok_iff (year month day : Nat) :
    ofFields year month day = .ok d ↔ d.year = year ∧ d.month = month ∧ d.day = day := by
  constructor
  · intro h
    unfold ofFields at h
    split_ifs at h
    cases h
    exact ⟨rfl, rfl, rfl⟩
  · rintro ⟨rfl, rfl, rfl⟩
    simp only [ofFields, d.year_mem, d.month_mem, d.day_mem, and_self, dif_pos]

end Date

theorem dayNumber_stepBack (count : Nat) {d : Date} (h : count < d.dayNumber) :
    (TimeUnit.stepBack count d).dayNumber + count = d.dayNumber := by
  induction count generalizing d with
  | zero => rfl
  | succ count ih =>
    obtain ⟨earlier, hearlier⟩ := Date.exists_prev?_of_one_lt (show 1 < d.dayNumber by omega)
    have hprev := Date.dayNumber_prev? hearlier
    have hstep := ih (show count < earlier.dayNumber by omega)
    simp only [TimeUnit.stepBack, hearlier, Option.map_some, Option.getD_some]
    omega

end JournalSearch.Calendar
