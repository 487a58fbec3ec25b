import JournalSearch.Query.Basic

/-!
The report parameters that a query implies: a start date, a date span, a depth, whether empty
items are shown. They are read off the tests that are reached through conjunctions and choices;
what stands under a complement contributes nothing.
-/
namespace JournalSearch

open Calendar (Date Span latest earliest)

inductive DateField where
  | actual
  | effective
  deriving DecidableEq

def Test.span? : DateField → Test → Option Span
  | .actual, date span => some span
  | .effective, effectiveDate span => some span
  | _, _ => none

def Test.depth? : Test → Option Int
  | depth limit => some limit
  | _ => none

def Test.showEmpty? : Test → Option Bool
  | showEmpty value => some value
  | _ => none

namespace Query

mutual

def collect {α : Type} (f : Test → Option α) : Query → List α
  | anyOf qs | allOf qs => collectAll f qs
  | test t => (f t).toList
  | everything | nothing | complement _ => []

def collectAll {α : Type} (f : Test → Option α) : List Query → List α
  | [] => []
  | q :: qs => collect f q ++ collectAll f qs

end

mutual

/-- The first day that the query allows: the earliest of a choice, the latest of a conjunction.
A term without a first day counts as earliest. -/
def startDate (field : DateField) : Query → Option Date
  | anyOf qs => earliest (startDates field qs)
  | allOf qs => latest (startDates field qs)
  | test t => (t.span? field).bind Span.start
  | everything | nothing | complement _ => none

def startDates (field : DateField) : List Query → List (Option Date)
  | [] => []
  | q :: qs => startDate field q :: startDates field qs

end

mutual

/-- Whether all tests set a first day, so that the query excludes at most what is earlier. -/
def isStartDateOnly (field : DateField) : Query → Bool
  | anyOf qs | allOf qs => allStartDateOnly field qs
  | test t => ((t.span? field).bind Span.start).isSome
  | everything | nothing | complement _ => false

def allStartDateOnly (field : DateField) : List Query → Bool
  | [] => true
  | q :: qs => isStartDateOnly field q && allStartDateOnly field qs

end

def dateSpans (field : DateField) (q : Query) : List Span := q.collect (Test.span? field)

def dateSpan (field : DateField) (q : Query) : Span := Span.hullAll (q.dateSpans field)

def unlimitedDepth : Int := 99999

def depthLimit (q : Query) : Int :=
  (q.collect Test.depth?).min?.getD unlimitedDepth

/-- Whether empty items are shown, as the first such test says; they are not by default. -/
def showsEmpty (q : Query) : Bool :=
  (q.collect Test.showEmpty?).head?.getD false

end Query

end JournalSearch
