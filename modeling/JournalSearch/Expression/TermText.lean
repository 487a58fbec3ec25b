import JournalSearch.Expression.Parse

/-!
The texts of terms: the label of a field and a value, with a negation in front for each complement
around the query. Spans are written as period expressions. A query that joins others, or matches
nothing, is no term and has no text.
-/
namespace JournalSearch

open Text (unwords writeInt)

def Calendar.Span.expression : Calendar.Span → String
  | ⟨none, none⟩ => ""
  | ⟨some first, none⟩ => unwords ["from", first.text]
  | ⟨none, some stop⟩ => unwords ["to", stop.text]
  | ⟨some first, some stop⟩ => unwords ["from", first.text, "to", stop.text]

namespace Expression

def writeFlag (value : Bool) : String := if value then "1" else "0"

def fieldOfTest : Test → Field
  | .description _ => .description
  | .account _ => .account
  | .date _ => .date
  | .effectiveDate _ => .effectiveDate
  | .cleared _ => .cleared
  | .real _ => .real
  | .showEmpty _ => .showEmpty
  | .depth _ => .depth

def writeTest : Test → String
  | .description pattern | .account pattern => pattern
  | .date span | .effectiveDate span => span.expression
  | .cleared value | .real value | .showEmpty value => writeFlag value
  | .depth limit => writeInt limit

def fieldOfOption : FocusOption → Field
  | .withSubaccounts _ => .focus
  | .exactly _ => .focusExactly

/-- The text of a query that is a term by itself. -/
def writeQuery? : Query → Option String
  | .everything => some ""
  | .complement q => (writeQuery? q).map (negation ++ ·)
  | .test t => some ((fieldOfTest t).label ++ writeTest t)
  | .nothing | .anyOf _ | .allOf _ => none

def Term.write? : Term → Option String
  | query q => writeQuery? q
  | option o => some ((fieldOfOption o).label ++ o.account)

end Expression

end JournalSearch
