import JournalSearch.Calendar.Span

/-!
Queries on accounts, postings and transactions. A query joins tests, each on one field, by
complement, choice and conjunction. Equality of queries is equality of the trees, and it can
be decided.
-/
namespace JournalSearch

open Calendar (Span)

inductive Test where
  /-- The description of the transaction fits a pattern. -/
  | description (pattern : String)
  /-- The account name fits a pattern. -/
  | account (pattern : String)
  /-- The transaction is dated within a span. -/
  | date (span : Span)
  /-- The effective date lies within a span. -/
  | effectiveDate (span : Span)
  /-- The posting or transaction is marked as cleared, or is not. -/
  | cleared (value : Bool)
  /-- The posting takes part in the balance of real accounts, or does not. -/
  | real (value : Bool)
  /-- Whether a report shows items that amount to zero. It restricts nothing. -/
  | showEmpty (value : Bool)
  /-- The account name has at most so many segments. -/
  | depth (limit : Int)
  deriving DecidableEq

inductive Query where
  | everything
  | nothing
  | complement (query : Query)
  | anyOf (queries : List Query)
  | allOf (queries : List Query)
  | test (t : Test)
  deriving Inhabited

namespace Query

mutual

def same : Query → Query → Bool
  | everything, everything => true
  | nothing, nothing => true
  | complement q, complement r => same q r
  | anyOf qs, anyOf rs => sameAll qs rs
  | allOf qs, allOf rs => sameAll qs rs
  | test t, test u => t == u
  | _, _ => false

def sameAll : List Query → List Query → Bool
  | [], [] => true
  | q :: qs, r :: rs => same q r && sameAll qs rs
  | _, _ => false

end

mutual

theorem same_eq_true_iff (q r : Query) : same q r = true ↔ q = r := by
  cases q with
  | everything => cases r <;> simp [same]
  | nothing => cases r <;> simp [same]
  | complement q =>
    cases r with
    | complement r => simp [same, same_eq_true_iff q r]
    | _ => simp [same]
  | anyOf qs =>
    cases r with
    | anyOf rs => simp [same, sameAll_eq_true_iff qs rs]
    | _ => simp [same]
  | allOf qs =>
    cases r with
    | allOf rs => simp [same, sameAll_eq_true_iff qs rs]
    | _ => simp [same]
  | test t => cases r <;> simp [same]

theorem sameAll_eq_true_iff (qs rs : List Query) : sameAll qs rs = true ↔ qs = rs := by
  cases qs with
  | nil => cases rs <;> simp [sameAll]
  | cons q qs =>
    cases rs with
    | nil => simp [sameAll]
    | cons r rs => simp [sameAll, same_eq_true_iff q r, sameAll_eq_true_iff qs rs]

end

instance : DecidableEq Query := fun q r => decidable_of_iff _ (same_eq_true_iff q r)

end Query

end JournalSearch
