import JournalSearch.Calendar.Span

/-!
The units of the calendar. Each day lies in one period of each unit: the day itself, its week
from Monday, its month, its quarter, its year. A period whose finish would lie after the last
day of the calendar has no span.
-/
namespace JournalSearch.Calendar

inductive TimeUnit where
  | day
  | week
  | month
  | quarter
  | year
  deriving DecidableEq

namespace TimeUnit

def stepBack : Nat → Date → Date
  | 0, d => d
  | count + 1, d => (d.prev?.map (stepBack count)).getD d

def startOfMonth (d : Date) (month : Nat) (h : 1 ≤ month ∧ month ≤ 12) : Date :=
  ⟨d.year, month, 1, d.year_mem, h, Nat.le_refl 1, Date.daysInMonth_pos h⟩

theorem january_mem : 1 ≤ 1 ∧ 1 ≤ 12 := by decide

/-- The first day of the period in which the day lies. The calendar starts with a Monday, so
stepping back to the start of a week never meets its edge. -/
def startOf (u : TimeUnit) (d : Date) : Date :=
  match u with
  | day => d
  | week => stepBack d.weekday d
  | month => startOfMonth d d.month d.month_mem
  | quarter => startOfMonth d (3 * ((d.month - 1) / 3) + 1) (by have := d.month_mem; omega)
  | year => startOfMonth d 1 january_mem

def shift (u : TimeUnit) (count : Int) (d : Date) : Except DateError Date :=
  match u with
  | day => d.addDays count
  | week => d.addDays (7 * count)
  | month => d.addMonths count
  | quarter => d.addMonths (3 * count)
  | year => d.addMonths (12 * count)

def periodOf (u : TimeUnit) (d : Date) : Except DateError Span := do
  let start := u.startOf d
  return ⟨some start, some (← u.shift 1 start)⟩

/-- The period that many units away from the one in which the day lies. Both have to be within
the calendar. -/
def periodNear (u : TimeUnit) (count : Int) (d : Date) : Except DateError Span := do
  let _ ← u.periodOf d
  u.periodOf (← u.shift count (u.startOf d))

end TimeUnit

end JournalSearch.Calendar
