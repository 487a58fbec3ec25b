import JournalSearch.Calendar.TimeUnit
import JournalSearch.Text.Basic

/-!
Single dates as people write them: 2008/5/17, 2008-05, 5/17, may, yesterday, last week. A smart
date denotes the whole period that it names. What it leaves open is taken from a reference date.
Texts that name no date, or none of the calendar, are among the faults of period expressions.
-/
namespace JournalSearch.Period

open Calendar (Date DateError Span TimeUnit)
open Text (TooManyDigits ofDigits quoted unwords)

inductive Error where
  /-- The text names no date. -/
  | unrecognised (text : String)
  /-- The text names a date that the calendar lacks, or a period that leaves it. -/
  | impossible (text : String) (why : DateError)
  /-- The expression asks for an interval of no units. -/
  | countNotPositive (expression : String)
  /-- The count of an interval is too long to be read. -/
  | countTooLong (why : TooManyDigits)
  deriving DecidableEq

def Error.message : Error → String
  | unrecognised text => "Unrecognised date " ++ quoted text
  | impossible text why => "Invalid date " ++ quoted text ++ ": " ++ why.message
  | countNotPositive expression => "Interval count must be positive: " ++ quoted expression
  | countTooLong why => why.message

inductive SmartDate where
  | yearMonthDay (year month day : Nat)
  | yearMonth (year month : Nat)
  | year (year : Nat)
  | monthDay (month day : Nat)
  /-- A month that is given by its name. -/
  | month (month : Nat)
  /-- The day that is so many days away. -/
  | daysAway (count : Int)
  /-- The period that is so many periods away from the one of the reference date. -/
  | periodsAway (count : Int) (u : TimeUnit)
  deriving DecidableEq

namespace SmartDate

def isSeparator (c : Char) : Bool := c = '/' || c = '.' || c = '-'

def numbers? (word : String) : Option (List (List Nat)) :=
  (word.toList.splitOnP isSeparator).mapM (·.mapM Unicode.digitValue?)

/-- Years have four digits, months and days one or two. -/
def ofNumbers? : List (List Nat) → Option SmartDate
  | [y, m, d] =>
    if y.length = 4 ∧ isShort m ∧ isShort d then
      some (yearMonthDay (ofDigits y) (ofDigits m) (ofDigits d))
    else none
  | [a, b] =>
    if a.length = 4 ∧ isShort b then some (yearMonth (ofDigits a) (ofDigits b))
    else if isShort a ∧ isShort b then some (monthDay (ofDigits a) (ofDigits b))
    else none
  | [y] => if y.length = 4 then some (year (ofDigits y)) else none
  | _ => none
where
  isShort (digits : List Nat) : Bool := digits.length = 1 || digits.length = 2

def monthNames : List (List String) := [
  ["jan", "january"], ["feb", "february"], ["mar", "march"], ["apr", "april"], ["may"],
  ["jun", "june"], ["jul", "july"], ["aug", "august"], ["sep", "september"],
  ["oct", "october"], ["nov", "november"], ["dec", "december"]]

def monthNumber? (word : String) : Option Nat :=
  (monthNames.findIdx? (·.contains word)).map (· + 1)

def unitNames : List (String × TimeUnit) :=
  [("day", .day), ("week", .week), ("month", .month), ("quarter", .quarter), ("year", .year)]

/-- Words that place one day against the reference date. -/
def dayNames : List (String × Int) := [("today", 0), ("yesterday", -1), ("tomorrow", 1)]

def relativeNames : List (String × Int) := [("this", 0), ("last", -1), ("next", 1)]

def ofWords? : List String → Option SmartDate
  | [word] =>
    ((numbers? word).bind ofNumbers?) <|> (monthNumber? word).map month
      <|> (dayNames.lookup word).map daysAway
  | [relative, word] => do
    return periodsAway (← relativeNames.lookup relative) (← unitNames.lookup word)
  | _ => none

def resolve (reference : Date) : SmartDate → Except DateError Span
  | yearMonthDay y m d => do TimeUnit.day.periodOf (← Date.ofFields y m d)
  | yearMonth y m => do TimeUnit.month.periodOf (← Date.ofFields y m 1)
  | year y => do TimeUnit.year.periodOf (← Date.ofFields y 1 1)
  | monthDay m d => do TimeUnit.day.periodOf (← Date.ofFields reference.year m d)
  | month m => do TimeUnit.month.periodOf (← Date.ofFields reference.year m 1)
  | daysAway count => do TimeUnit.day.periodOf (← reference.addDays count)
  | periodsAway count u => u.periodNear count reference

def spanOfWords (reference : Date) (words : List String) : Except Error Span :=
  match ofWords? words with
  | none => .error (.unrecognised (unwords words))
  | some d => (d.resolve reference).mapError (.impossible (unwords words))

end SmartDate

end JournalSearch.Period
