/-!
Dates of the civil calendar, from 1 January of year 1 to 31 December of year 9999.
A date is its three fields with the proof that such a day exists. Dates are ordered by the
number of days up to them, and `next?` and `prev?` walk them one day at a time.
-/
namespace JournalSearch.Calendar

def firstYear : Nat := 1

def lastYear : Nat := 9999

def isLeapYear (year : Nat) : Bool :=
  year % 4 == 0 && (year % 100 != 0 || year % 400 == 0)

def daysInMonth (year : Nat) : Nat → Nat
  | 1 | 3 | 5 | 7 | 8 | 10 | 12 => 31
  | 4 | 6 | 9 | 11 => 30
  | 2 => if isLeapYear year then 29 else 28
  | _ => 0

def daysBeforeMonth (year : Nat) : Nat → Nat
  | 0 => 0
  | month + 1 => daysBeforeMonth year month + daysInMonth year month

def daysBeforeYear (year : Nat) : Nat :=
  let past := year - 1
  365 * past + past / 4 - past / 100 + past / 400

/-- A day of the calendar. -/
structure Date where
  year : Nat
  month : Nat
  day : Nat
  year_mem : firstYear ≤ year ∧ year ≤ lastYear
  month_mem : 1 ≤ month ∧ month ≤ 12
  day_mem : 1 ≤ day ∧ day ≤ daysInMonth year month
  deriving DecidableEq

inductive DateError where
  | yearOutOfRange (year : Int)
  | monthOutOfRange
  | dayOutOfRange
  | outsideCalendar
  deriving DecidableEq

def DateError.message : DateError → String
  | yearOutOfRange year => s!"year {year} is out of range"
  | monthOutOfRange => "month must be in 1..12"
  | dayOutOfRange => "day is out of range for month"
  | outsideCalendar => "date value out of range"

namespace Date

/-- The date with these fields. The year is looked at first, then the month, then the day. -/
def ofFields (year month day : Nat) : Except DateError Date :=
  if hy : firstYear ≤ year ∧ year ≤ lastYear then
    if hm : 1 ≤ month ∧ month ≤ 12 then
      if hd : 1 ≤ day ∧ day ≤ daysInMonth year month then
        .ok ⟨year, month, day, hy, hm, hd⟩
      else .error .dayOutOfRange
    else .error .monthOutOfRange
  else .error (.yearOutOfRange year)

def dayNumber (d : Date) : Nat :=
  daysBeforeYear d.year + daysBeforeMonth d.year d.month + d.day

instance : LE Date := ⟨fun a b => a.dayNumber ≤ b.dayNumber⟩

instance : LT Date := ⟨fun a b => a.dayNumber < b.dayNumber⟩

theorem le_iff {a b : Date} : a ≤ b ↔ a.dayNumber ≤ b.dayNumber := Iff.rfl

theorem lt_iff {a b : Date} : a < b ↔ a.dayNumber < b.dayNumber := Iff.rfl

instance (a b : Date) : Decidable (a ≤ b) :=
  inferInstanceAs (Decidable (a.dayNumber ≤ b.dayNumber))

instance (a b : Date) : Decidable (a < b) :=
  inferInstanceAs (Decidable (a.dayNumber < b.dayNumber))

instance : Min Date := minOfLe

instance : Max Date := maxOfLe

/-- Days count from Monday, 0, to Sunday, 6. The first day of the calendar is a Monday. -/
def weekday (d : Date) : Nat := (d.dayNumber + 6) % 7

theorem daysInMonth_pos {year month : Nat} (h : 1 ≤ month ∧ month ≤ 12) :
    1 ≤ daysInMonth year month := by
  obtain ⟨lo, hi⟩ := h
  match month, lo, hi with
  | 1, _, _ | 3, _, _ | 5, _, _ | 7, _, _ | 8, _, _ | 10, _, _ | 12, _, _
  | 4, _, _ | 6, _, _ | 9, _, _ | 11, _, _ => simp [daysInMonth]
  | 2, _, _ => simp only [daysInMonth]; split <;> omega

def next? (d : Date) : Option Date :=
  if h : d.day < daysInMonth d.year d.month then
    some { d with day := d.day + 1, day_mem := ⟨by omega, h⟩ }
  else if h : d.month < 12 then
    have hm : 1 ≤ d.month + 1 ∧ d.month + 1 ≤ 12 := ⟨by omega, h⟩
    some ⟨d.year, d.month + 1, 1, d.year_mem, hm, by omega, daysInMonth_pos hm⟩
  else if h : d.year < lastYear then
    some ⟨d.year + 1, 1, 1, ⟨by simp [firstYear], h⟩, by decide, by simp [daysInMonth]⟩
  else none

def prev? (d : Date) : Option Date :=
  if h : 1 < d.day then
    some { d with day := d.day - 1, day_mem := ⟨by omega, by have := d.day_mem; omega⟩ }
  else if h : 1 < d.month then
    have hm : 1 ≤ d.month - 1 ∧ d.month - 1 ≤ 12 := ⟨by omega, by have := d.month_mem; omega⟩
    some ⟨d.year, d.month - 1, daysInMonth d.year (d.month - 1), d.year_mem, hm,
      daysInMonth_pos hm, Nat.le_refl _⟩
  else if h : firstYear < d.year then
    have hy : firstYear ≤ d.year - 1 ∧ d.year - 1 ≤ lastYear := by have := d.year_mem; omega
    some ⟨d.year - 1, 12, 31, hy, by decide, by simp [daysInMonth]⟩
  else none

def daysAfter : Nat → Date → Except DateError Date
  | 0, d => .ok d
  | count + 1, d =>
    match d.next? with
    | some later => daysAfter count later
    | none => .error .outsideCalendar

def daysBefore : Nat → Date → Except DateError Date
  | 0, d => .ok d
  | count + 1, d =>
    match d.prev? with
    | some earlier => daysBefore count earlier
    | none => .error .outsideCalendar

def addDays : Int → Date → Except DateError Date
  | .ofNat count, d => daysAfter count d
  | .negSucc count, d => daysBefore (count + 1) d

/-- The same day of a month that is `count` months away, or that month's last day if it is
shorter. -/
def addMonths (count : Int) (d : Date) : Except DateError Date :=
  let months : Int := 12 * (d.year : Int) + ((d.month : Int) - 1) + count
  let year := months.fdiv 12
  let month := (months.fmod 12).toNat + 1
  if year < firstYear ∨ lastYear < year then .error (.yearOutOfRange year)
  else ofFields year.toNat month (min d.day (daysInMonth year.toNat month))

def padded (width n : Nat) : String :=
  String.ofList ((Nat.toDigits 10 n).leftpad width '0')

def text (d : Date) : String := s!"{padded 4 d.year}-{padded 2 d.month}-{padded 2 d.day}"

end Date

/-- The latest of the dates that are set, where a missing date counts as the earliest of all. -/
def latest (dates : List (Option Date)) : Option Date :=
  dates.foldr (Option.merge max) none

/-- The earliest of these dates, where a missing date counts as the earliest of all. -/
def earliest : List (Option Date) → Option Date
  | [] => none
  | [d] => d
  | d :: dates => do return min (← d) (← earliest dates)

end JournalSearch.Calendar
