import JournalSearch.Calendar.Date

/-!
Spans of dates. The start is the first day of a span and the finish the first day after it;
a missing bound leaves that side open. The intersection of disjoint spans is inverted and has
no days; the hull of spans is the smallest span that covers them all.
-/
namespace JournalSearch.Calendar

structure Span where
  start : Option Date
  finish : Option Date
  deriving DecidableEq

namespace Span

def unbounded : Span := ⟨none, none⟩

def isUnbounded (s : Span) : Bool := s.start.isNone && s.finish.isNone

def contains (s : Span) (day : Date) : Bool :=
  s.start.all (fun first => decide (first ≤ day)) && s.finish.all (fun stop => decide (day < stop))

def inter (a b : Span) : Span :=
  ⟨a.start.merge max b.start, a.finish.merge min b.finish⟩

/-- The earlier start and the later finish, where an open bound stays open. -/
def hull (a b : Span) : Span :=
  ⟨do return min (← a.start) (← b.start), do return max (← a.finish) (← b.finish)⟩

def interAll (spans : List Span) : Span := spans.foldl inter unbounded

def hullAll : List Span → Span
  | [] => unbounded
  | s :: spans => spans.foldl hull s

def text (s : Span) : String := s.start.elim "" Date.text ++ ".." ++ s.finish.elim "" Date.text

end Span

end JournalSearch.Calendar
