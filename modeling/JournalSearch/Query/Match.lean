import JournalSearch.Journal.Record
import JournalSearch.Query.Basic

/-!
Matching queries. The connectives mean the same for each kind of entity, and each kind has a rule
of its own for tests; a test of a field that the kind lacks is passed. Patterns are looked for by
a search that may fail, so terms are looked at in order, and no further than the first that
decides. Account names are paths: a colon stands between an account and its subaccount.
-/
namespace JournalSearch

namespace AccountName

def separator : Char := ':'

/-- The number of segments of the path, none in the empty name. -/
def level (account : String) : Nat :=
  match account.toList with
  | [] => 0
  | name => name.count separator + 1

end AccountName

open AccountName (level)

variable {m : Type → Type} [Monad m]

namespace Query

mutual

def holds (rule : Test → m Bool) : Query → m Bool
  | everything => pure true
  | nothing => pure false
  | complement q => do return !(← holds rule q)
  | anyOf qs => holdsAny rule qs
  | allOf qs => holdsAll rule qs
  | test t => rule t

def holdsAny (rule : Test → m Bool) : List Query → m Bool
  | [] => pure false
  | q :: qs => do if ← holds rule q then return true else holdsAny rule qs

def holdsAll (rule : Test → m Bool) : List Query → m Bool
  | [] => pure true
  | q :: qs => do if ← holds rule q then holdsAll rule qs else return false

end

end Query

namespace Test

def onAccount (search : String → String → m Bool) (account : String) : Test → m Bool
  | .account pattern => search pattern account
  | depth limit => pure (decide (level account ≤ limit))
  | description _ | date _ | effectiveDate _ | cleared _ | real _ | showEmpty _ => pure true

/-- A posting without a transaction has the empty description and lies in no span of dates. -/
def onPosting (search : String → String → m Bool) (p : LinkedPosting) : Test → m Bool
  | description pattern => search pattern p.description
  | account pattern => search pattern p.posting.account
  | date span => pure (p.heading.any fun h => span.contains h.date)
  | effectiveDate span => pure (p.effectiveDate?.any span.contains)
  | cleared value => pure (value == p.isCleared)
  | real value => pure (value == p.posting.isReal)
  | depth limit => pure (decide (level p.posting.account ≤ limit))
  | showEmpty _ => pure true

/-- A transaction passes a test of accounts if one of its postings does. -/
def onTransaction (search : String → String → m Bool) (t : Transaction) : Test → m Bool
  | description pattern => search pattern t.heading.description
  | account pattern => t.postings.anyM fun p => search pattern p.account
  | date span => pure (span.contains t.heading.date)
  | effectiveDate span => pure (span.contains t.heading.effectiveOrDate)
  | cleared value => pure (value == t.heading.cleared)
  | real value => pure (value == t.hasRealPosting)
  | depth limit => pure (t.postings.any fun p => decide (level p.account ≤ limit))
  | showEmpty _ => pure true

end Test

namespace Query

def matchesAccount (search : String → String → m Bool) (q : Query) (account : String) : m Bool :=
  q.holds (Test.onAccount search account)

def matchesPosting (search : String → String → m Bool) (q : Query) (p : LinkedPosting) : m Bool :=
  q.holds (Test.onPosting search p)

def matchesTransaction (search : String → String → m Bool) (q : Query) (t : Transaction) :
    m Bool :=
  q.holds (Test.onTransaction search t)

end Query

end JournalSearch
