import JournalSearch.Journal.Record

/-!
A journal whose records are created, linked and changed step by step. A transaction lists its
postings by name, perhaps repeatedly, and a posting is linked to the transaction that took it last,
even if others list it too. Each transaction has a list of its own: one list that two transactions
share, so that both would list what is added to either, is not among these journals.
-/
namespace JournalSearch

open Calendar (Date)

abbrev RecordId := String

structure StoredPosting where
  posting : Posting
  /-- The transaction to which the posting is linked. -/
  transaction : Option RecordId

structure StoredTransaction where
  heading : Heading
  postings : List RecordId

/-- The records of a journal by name. -/
structure Journal where
  posting? : RecordId → Option StoredPosting
  transaction? : RecordId → Option StoredTransaction

inductive Assignment where
  | account (value : String)
  | kind (value : PostingKind)
  | date (value : Date)
  | description (value : String)
  | effectiveDate (value : Option Date)
  | cleared (value : Bool)

inductive Step where
  /-- A new posting, without a link. -/
  | newPosting (id : RecordId) (posting : Posting)
  /-- A new transaction, which takes the postings and gets a list of its own for them. -/
  | newTransaction (id : RecordId) (heading : Heading) (postings : List RecordId)
  /-- The transaction takes one more posting. -/
  | addPosting (transaction posting : RecordId)
  | assign (id : RecordId) (change : Assignment)

/-- A field that the record lacks is ignored. -/
def Assignment.onPosting (p : Posting) : Assignment → Posting
  | account value => { p with account := value }
  | kind value => { p with kind := value }
  | effectiveDate value => { p with effectiveDate := value }
  | cleared value => { p with cleared := value }
  | date _ | description _ => p

def Assignment.onHeading (h : Heading) : Assignment → Heading
  | date value => { h with date := value }
  | description value => { h with description := value }
  | effectiveDate value => { h with effectiveDate := value }
  | cleared value => { h with cleared := value }
  | account _ | kind _ => h

namespace Journal

def empty : Journal := ⟨fun _ => none, fun _ => none⟩

def putPosting (j : Journal) (id : RecordId) (p : StoredPosting) : Journal :=
  { j with posting? := fun i => if i = id then some p else j.posting? i }

def putTransaction (j : Journal) (id : RecordId) (t : StoredTransaction) : Journal :=
  { j with transaction? := fun i => if i = id then some t else j.transaction? i }

def link (j : Journal) (id : RecordId) (postings : List RecordId) : Journal :=
  { j with
    posting? := fun i =>
      (j.posting? i).map fun p => if i ∈ postings then { p with transaction := some id } else p }

def step (j : Journal) : Step → Journal
  | .newPosting id p => j.putPosting id ⟨p, none⟩
  | .newTransaction id h postings => (j.link id postings).putTransaction id ⟨h, postings⟩
  | .addPosting id p =>
    match j.transaction? id with
    | some t => (j.link id [p]).putTransaction id { t with postings := t.postings ++ [p] }
    | none => j
  | .assign id change =>
    { posting? := fun i =>
        (j.posting? i).map fun p =>
          if i = id then { p with posting := change.onPosting p.posting } else p
      transaction? := fun i =>
        (j.transaction? i).map fun t =>
          if i = id then { t with heading := change.onHeading t.heading } else t }

def run (j : Journal) (steps : List Step) : Journal := steps.foldl step j

/-- A posting as it stands, with the heading of the transaction to which it is linked. -/
def linkedPosting? (j : Journal) (id : RecordId) : Option LinkedPosting := do
  let p ← j.posting? id
  return ⟨p.posting, (p.transaction.bind j.transaction?).map StoredTransaction.heading⟩

def fullTransaction? (j : Journal) (id : RecordId) : Option Transaction := do
  let t ← j.transaction? id
  return ⟨t.heading, t.postings.filterMap fun i => (j.posting? i).map StoredPosting.posting⟩

/-- What two records have to agree on to be equal. The link of a posting is not looked at. -/
inductive Content where
  | posting (p : Posting)
  | transaction (t : Transaction)
  deriving DecidableEq

def content? (j : Journal) (id : RecordId) : Option Content :=
  (j.posting? id).map (.posting ·.posting) <|> (j.fullTransaction? id).map .transaction

end Journal

end JournalSearch
