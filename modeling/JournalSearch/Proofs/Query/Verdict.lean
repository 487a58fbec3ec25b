import JournalSearch.Proofs.Calendar.SpanAlgebra
import JournalSearch.Proofs.Query.Tree
import JournalSearch.Query.Match

/-!
Verdicts of queries. Accounts, postings and transactions are entities, each kind with its own rule
for tests. If the search for patterns always answers, the verdict is a truth value that follows
from the truth values of the tests.
-/
namespace JournalSearch

open Calendar (Span Date)

def Test.asksName : Test → Bool
  | account _ | depth _ => true
  | description _ | date _ | effectiveDate _ | cleared _ | real _ | showEmpty _ => false

def Test.asksHeading : Test → Bool
  | description _ | date _ => true
  | account _ | effectiveDate _ | cleared _ | real _ | showEmpty _ | depth _ => false

def Test.asksNothing : Test → Bool
  | showEmpty _ => true
  | description _ | account _ | date _ | effectiveDate _ | cleared _ | real _ | depth _ => false

inductive Entity where
  | account (name : String)
  | posting (posting : LinkedPosting)
  | transaction (transaction : Transaction)

namespace Entity

variable {m : Type → Type} [Monad m]

def verdict (search : String → String → m Bool) (q : Query) : Entity → m Bool
  | account name => q.matchesAccount search name
  | posting p => q.matchesPosting search p
  | transaction t => q.matchesTransaction search t

def rule (search : String → String → m Bool) : Entity → Test → m Bool
  | account name => Test.onAccount search name
  | posting p => Test.onPosting search p
  | transaction t => Test.onTransaction search t

theorem verdict_eq_holds (search : String → String → m Bool) (q : Query) (e : Entity) :
    e.verdict search q = q.holds (e.rule search) := by
  cases e <;> rfl

/-- Whether the entity passes a test, with a search that always answers. -/
def passes (search : String → String → Bool) (e : Entity) (t : Test) : Bool :=
  Id.run (e.rule search t)

def isUnlinked : Entity → Bool
  | posting p => p.heading.isNone
  | account _ | transaction _ => false

section
variable (search : String → String → Bool) {t : Test}

/-- Of its account's name a posting says the same as the account. -/
theorem passes_posting_of_asksName (p : LinkedPosting) (ht : t.asksName = true) :
    (posting p).passes search t = (account p.posting.account).passes search t := by
  cases t with
  | account pattern => rfl
  | depth limit => rfl
  | _ => cases ht

/-- A transaction is asked for the account of one of its postings, whatever these are linked to. -/
theorem passes_transaction_iff_of_asksName (tr : Transaction) (ht : t.asksName = true) :
    (transaction tr).passes search t = true ↔
      ∃ p ∈ tr.postings, (account p.account).passes search t = true := by
  cases t with
  | account pattern =>
    have hany : (transaction tr).passes search (.account pattern) =
        tr.postings.any fun p => search pattern p.account := List.anyM_pure
    rw [hany, List.any_eq_true]
    rfl
  | depth limit => exact List.any_eq_true
  | _ => cases ht

/-- A posting has its heading from the transaction. -/
theorem passes_posting_of_asksHeading (p : Posting) (tr : Transaction)
    (ht : t.asksHeading = true) :
    (posting ⟨p, some tr.heading⟩).passes search t = (transaction tr).passes search t := by
  cases t with
  | description pattern => rfl
  | date span => rfl
  | _ => cases ht

theorem passes_of_asksNothing (e : Entity) (ht : t.asksNothing = true) :
    e.passes search t = true := by
  cases t with
  | showEmpty value => cases e <;> rfl
  | _ => cases ht

end

end Entity

namespace Query

def eval (rule : Test → Bool) (q : Query) : Bool := Id.run (q.holds rule)

theorem run_verdict (search : String → String → Bool) (q : Query) (e : Entity) :
    Id.run (e.verdict search q) = q.eval (e.passes search) := by
  rw [Entity.verdict_eq_holds]
  rfl

variable (rule : Test → Bool)

@[simp]
theorem eval_test (t : Test) : eval rule (test t) = rule t := rfl

@[simp]
theorem eval_complement (q : Query) : eval rule (complement q) = !eval rule q := rfl

@[simp]
theorem eval_anyOf_iff (qs : List Query) :
    eval rule (anyOf qs) = true ↔ ∃ q ∈ qs, eval rule q = true := by
  change Id.run (holdsAny rule qs) = true ↔ _
  induction qs with
  | nil => simp [holdsAny]
  | cons q qs ih =>
    simp only [List.mem_cons, exists_eq_or_imp, ← ih]
    cases hq : eval rule q <;> rw [eval] at hq <;> simp [holdsAny, hq]

@[simp]
theorem eval_allOf_iff (qs : List Query) :
    eval rule (allOf qs) = true ↔ ∀ q ∈ qs, eval rule q = true := by
  change Id.run (holdsAll rule qs) = true ↔ _
  induction qs with
  | nil => simp [holdsAll]
  | cons q qs ih =>
    rw [List.forall_mem_cons, ← ih]
    cases hq : eval rule q <;> rw [eval] at hq <;> simp [holdsAll, hq]

end Query

end JournalSearch
