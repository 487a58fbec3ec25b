import JournalSearch.Calendar.Date

/-!
The records of a journal: postings, and transactions with their postings. A posting that belongs
to a transaction takes from its heading what it does not say itself.
-/
namespace JournalSearch

open Calendar (Date)

inductive PostingKind where
  | regular
  | virtual
  | balancedVirtual
  deriving DecidableEq

/-- One line of a transaction, without a link to it. -/
structure Posting where
  account : String
  cleared : Bool
  kind : PostingKind
  effectiveDate : Option Date
  deriving DecidableEq

/-- What a transaction says above its postings. -/
structure Heading where
  date : Date
  description : String
  effectiveDate : Option Date
  cleared : Bool
  deriving DecidableEq

structure Transaction where
  heading : Heading
  postings : List Posting
  deriving DecidableEq

/-- A posting with the heading of the transaction to which it belongs, if it belongs to one. -/
structure LinkedPosting where
  posting : Posting
  heading : Option Heading
  deriving DecidableEq

def Posting.isReal (p : Posting) : Bool := p.kind = .regular

def Heading.effectiveOrDate (h : Heading) : Date := h.effectiveDate.getD h.date

def Transaction.hasRealPosting (t : Transaction) : Bool := t.postings.any Posting.isReal

def Transaction.linkedPostings (t : Transaction) : List LinkedPosting :=
  t.postings.map fun p => ⟨p, some t.heading⟩

namespace LinkedPosting

/-- Cleared by its own mark or by that of the transaction. -/
def isCleared (p : LinkedPosting) : Bool := p.posting.cleared || p.heading.any Heading.cleared

/-- The posting's own effective date, or else that of the transaction. -/
def effectiveDate? (p : LinkedPosting) : Option Date :=
  p.posting.effectiveDate.or (p.heading.map Heading.effectiveOrDate)

def description (p : LinkedPosting) : String := p.heading.elim "" Heading.description

end LinkedPosting

end JournalSearch
