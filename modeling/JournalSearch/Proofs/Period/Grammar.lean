import JournalSearch.Period.Expression
import JournalSearch.Proofs.Calendar.Periods
import JournalSearch.Proofs.Text.WordList

/-!
The language of period expressions and what its texts mean. The texts of dates, intervals and
ranges are given as they are written, with single blanks between words, and not by the order in
which a reader tries them. A date means the period that it names, from its first day up to the day
after it, as far as the calendar has both.
-/
namespace JournalSearch.Period

open Calendar (Date Span TimeUnit)
open Text (maxDigits ofDigits)

/-- Decimal digits of any script with their values. -/
def AreDigits : List Char → List Nat → Prop :=
  List.Forall₂ fun c digit => Unicode.digitValue? c = some digit

def IsNumber (least most : Nat) (text : List Char) (n : Nat) : Prop :=
  ∃ digits, AreDigits text digits ∧ least ≤ text.length ∧ text.length ≤ most ∧ n = ofDigits digits

inductive IsDate : String → SmartDate → Prop
  | yearMonthDay {year month day : List Char} {y m d : Nat} {a b : Char}
      (hy : IsNumber 4 4 year y) (ha : SmartDate.isSeparator a = true)
      (hm : IsNumber 1 2 month m) (hb : SmartDate.isSeparator b = true)
      (hd : IsNumber 1 2 day d) :
      IsDate (String.ofList (year ++ a :: (month ++ b :: day))) (.yearMonthDay y m d)
  | yearMonth {year month : List Char} {y m : Nat} {a : Char}
      (hy : IsNumber 4 4 year y) (ha : SmartDate.isSeparator a = true)
      (hm : IsNumber 1 2 month m) : IsDate (String.ofList (year ++ a :: month)) (.yearMonth y m)
  | year {year : List Char} {y : Nat} (hy : IsNumber 4 4 year y) :
      IsDate (String.ofList year) (.year y)
  | monthDay {month day : List Char} {m d : Nat} {a : Char}
      (hm : IsNumber 1 2 month m) (ha : SmartDate.isSeparator a = true)
      (hd : IsNumber 1 2 day d) : IsDate (String.ofList (month ++ a :: day)) (.monthDay m d)
  | month {before : Nat} {names : List String} {name : String}
      (hnames : SmartDate.monthNames[before]? = some names) (hname : name ∈ names) :
      IsDate name (.month (before + 1))
  | daysAway {name : String} {count : Int} (hname : (name, count) ∈ SmartDate.dayNames) :
      IsDate name (.daysAway count)
  | periodsAway {relative name : String} {count : Int} {u : TimeUnit}
      (hrelative : (relative, count) ∈ SmartDate.relativeNames)
      (hname : (name, u) ∈ SmartDate.unitNames) :
      IsDate (relative ++ " " ++ name) (.periodsAway count u)

/-- The first day of the period that a date names, and the day after the period. -/
inductive SmartDate.Denotes (reference : Date) : SmartDate → Date → Date → Prop
  | yearMonthDay {s f : Date} (h : TimeUnit.day.IsPeriod s f) :
      Denotes reference (yearMonthDay s.year s.month s.day) s f
  | yearMonth {s f : Date} (h : TimeUnit.month.IsPeriod s f) :
      Denotes reference (yearMonth s.year s.month) s f
  | year {s f : Date} (h : TimeUnit.year.IsPeriod s f) : Denotes reference (year s.year) s f
  | monthDay {s f : Date} (h : TimeUnit.day.IsPeriod s f) (hyear : s.year = reference.year) :
      Denotes reference (monthDay s.month s.day) s f
  | month {s f : Date} (h : TimeUnit.month.IsPeriod s f) (hyear : s.year = reference.year) :
      Denotes reference (month s.month) s f
  | daysAway {s f : Date} {count : Int} (h : TimeUnit.day.IsPeriod s f)
      (haway : (s.dayNumber : Int) = reference.dayNumber + count) :
      Denotes reference (daysAway count) s f
  /-- The period in which the reference date lies. -/
  | this {u : TimeUnit} {s f : Date} (h : u.IsPeriod s f) (hs : s ≤ reference)
      (hf : reference < f) : Denotes reference (periodsAway 0 u) s f
  /-- The period before that one. -/
  | last {u : TimeUnit} {s f before : Date} (h : u.IsPeriod s f) (hs : s ≤ reference)
      (hf : reference < f) (hbefore : u.IsPeriod before s) :
      Denotes reference (periodsAway (-1) u) before s
  /-- The period after that one. -/
  | next {u : TimeUnit} {s f after : Date} (h : u.IsPeriod s f) (hs : s ≤ reference)
      (hf : reference < f) (hafter : u.IsPeriod f after) :
      Denotes reference (periodsAway 1 u) f after

def NamesPeriod (reference : Date) (text : String) (start finish : Date) : Prop :=
  ∃ d, IsDate text d ∧ d.Denotes reference start finish

def IsUnit (text : String) (u : TimeUnit) : Prop :=
  ∃ name, (name, u) ∈ SmartDate.unitNames ∧ (text = name ∨ text = name ++ "s")

inductive IsInterval : String → Interval → Prop
  | adverb {name : String} {u : TimeUnit} (hname : (name, u) ∈ Interval.adverbs) :
      IsInterval name (.single u)
  | every {unit : String} {u : TimeUnit} (hunit : IsUnit unit u) :
      IsInterval ("every" ++ " " ++ unit) (.single u)
  | everyCount {number : List Char} {unit : String} {count : Nat} {u : TimeUnit}
      (hnumber : IsNumber 1 maxDigits number count) (hpos : 0 < count) (hunit : IsUnit unit u) :
      IsInterval ("every" ++ " " ++ (String.ofList number ++ " " ++ unit)) ⟨u, count, hpos⟩

def IsFrom (word : String) : Prop := word = "from" ∨ word = "since"

def IsTo (word : String) : Prop := word = "to" ∨ word = "until"

inductive MeansSpan (reference : Date) : String → Span → Prop
  | date {text : String} {s f : Date} (h : NamesPeriod reference text s f) :
      MeansSpan reference text ⟨some s, some f⟩
  | within {text : String} {s f : Date} (h : NamesPeriod reference text s f) :
      MeansSpan reference ("in" ++ " " ++ text) ⟨some s, some f⟩
  | starting {word text : String} {s f : Date} (hword : IsFrom word)
      (h : NamesPeriod reference text s f) :
      MeansSpan reference (word ++ " " ++ text) ⟨some s, none⟩
  | ending {word text : String} {s f : Date} (hword : IsTo word)
      (h : NamesPeriod reference text s f) :
      MeansSpan reference (word ++ " " ++ text) ⟨none, some s⟩
  | between {word first last : String} {s f s' f' : Date}
      (hfirst : NamesPeriod reference first s f) (hword : IsTo word)
      (hlast : NamesPeriod reference last s' f') :
      MeansSpan reference (first ++ " " ++ (word ++ " " ++ last)) ⟨some s, some s'⟩
  | fromTo {opening word first last : String} {s f s' f' : Date} (hopening : IsFrom opening)
      (hfirst : NamesPeriod reference first s f) (hword : IsTo word)
      (hlast : NamesPeriod reference last s' f') :
      MeansSpan reference (opening ++ " " ++ (first ++ " " ++ (word ++ " " ++ last)))
        ⟨some s, some s'⟩

inductive Means (reference : Date) : String → Option Interval × Span → Prop
  | empty : Means reference "" (none, .unbounded)
  | interval {text : String} {i : Interval} (hinterval : IsInterval text i) :
      Means reference text (some i, .unbounded)
  | range {text : String} {span : Span} (hrange : MeansSpan reference text span) :
      Means reference text (none, span)
  | both {first rest : String} {i : Interval} {span : Span} (hinterval : IsInterval first i)
      (hrange : MeansSpan reference rest span) :
      Means reference (first ++ " " ++ rest) (some i, span)

end JournalSearch.Period
