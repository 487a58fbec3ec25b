import JournalSearch.Query.Basic

/-!
The kinds of queries, and keeping some of the terms of a query. Only the direct terms of a
conjunction or a choice are looked at; any other query is a single term.
-/
namespace JournalSearch.Query

def isDate : Query → Bool
  | test (.date _) => true
  | _ => false

def isDescription : Query → Bool
  | test (.description _) => true
  | _ => false

def isAccount : Query → Bool
  | test (.account _) => true
  | _ => false

def isDepth : Query → Bool
  | test (.depth _) => true
  | _ => false

/-- Whether the query evidently matches everything: it says so, demands nothing, or excludes
what no choice offers. -/
def isTrivial : Query → Bool
  | everything => true
  | allOf [] => true
  | complement (anyOf []) => true
  | _ => false

/-- The terms that satisfy the predicate. A single term that does not is replaced by the query
that matches everything. -/
def filterTerms (keep : Query → Bool) : Query → Query
  | allOf qs => allOf (qs.filter keep)
  | anyOf qs => anyOf (qs.filter keep)
  | q => if keep q then q else everything

end JournalSearch.Query
