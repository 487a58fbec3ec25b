import JournalSearch.Query.Filter

/-!
Simplification of queries. One pass drops neutral terms, collapses equal terms, lets a
deciding term decide, merges spans and puts the date tests of a conjunction first. Passes are
repeated until one changes nothing. Each pass that changes a query makes it lighter, which bounds
their number. A complement is left exactly as it is.
-/
namespace JournalSearch.Query

open Calendar (Span)

def dateSpan? : Query → Option Span
  | test (.date span) => some span
  | _ => none

/-- Terms of a conjunction, each with its reduced form, joined to one query. The terms decide what
happens, and what is kept of them is kept in the reduced form. -/
def joinAll : List (Query × Query) → Query
  | [] => everything
  | (q, reduced) :: terms =>
    let all := (q, reduced) :: terms
    if terms.all (·.1 = q) then reduced
    else if all.any (·.1 = nothing) then nothing
    else if all.all (·.1.isDate) then test (.date (Span.interAll (all.filterMap (·.1.dateSpan?))))
    else
      let kept := all.filter (·.1 ≠ everything)
      allOf ((kept.filter (·.1.isDate)).map (·.2) ++ (kept.filter (!·.1.isDate)).map (·.2))

def joinAny : List (Query × Query) → Query
  | [] => everything
  | (q, reduced) :: terms =>
    let all := (q, reduced) :: terms
    if terms.all (·.1 = q) then reduced
    else if all.any (·.1 = everything) then everything
    else anyOf ((all.filter (·.1 ≠ nothing)).map (·.2))

mutual

/-- One pass, in which `settle` takes care of the only term of a choice. -/
def reduceWith (settle : Query → Query) : Query → Query
  | allOf qs => joinAll (reduceEach settle qs)
  | anyOf [q] => settle q
  | anyOf qs => joinAny (reduceEach settle qs)
  | test (.date span) => if span.isUnbounded then everything else test (.date span)
  | q => q

def reduceEach (settle : Query → Query) : List Query → List (Query × Query)
  | [] => []
  | q :: qs => (q, reduceWith settle q) :: reduceEach settle qs

end

def datesFirst (qs : List Query) : Bool :=
  qs.filter isDate ++ qs.filter (!·.isDate) == qs

mutual

/-- The measure that passes bring down. A test without bounds weighs as much as the two steps that
it may cause, and a conjunction whose date tests are not in front weighs one more. -/
def weight : Query → Nat
  | everything | nothing | complement _ => 1
  | anyOf qs => 2 + weights qs
  | allOf qs => 2 + weights qs + (if datesFirst qs then 0 else 1)
  | test (.date span) => if span.isUnbounded then 3 else 1
  | test _ => 1

def weights : List Query → Nat
  | [] => 0
  | q :: qs => weight q + weights qs

end

/-- Passes until one makes the query no lighter. The only term of a choice is simplified in full
within the pass that meets it. -/
def simplify (q : Query) : Query :=
  let settle c := if c.weight < q.weight then simplify c else c
  let reduced := reduceWith settle q
  if reduced.weight < q.weight then simplify reduced else reduced
termination_by q.weight

def reduce (q : Query) : Query := reduceWith simplify q

end JournalSearch.Query
