import JournalSearch.Pattern.Reader
import JournalSearch.Query.Basic

/-!
Options that put one account into the focus of a report, with or without its subaccounts. Of
several options the first decides.
-/
namespace JournalSearch

inductive FocusOption where
  | withSubaccounts (account : String)
  | exactly (account : String)
  deriving DecidableEq

def AccountName.exactPattern (account : String) : String := "^" ++ Pattern.escape account ++ "$"

def AccountName.subtreePattern (account : String) : String :=
  "^" ++ Pattern.escape account ++ "(:|$)"

namespace FocusOption

def account : FocusOption → String
  | withSubaccounts name | exactly name => name

def includesSubaccounts : FocusOption → Bool
  | withSubaccounts _ => true
  | exactly _ => false

def query : FocusOption → Query
  | withSubaccounts name => .test (.account (AccountName.subtreePattern name))
  | exactly name => .test (.account (AccountName.exactPattern name))

/-- The account in focus, and whether its subaccounts are included. -/
def focus? (options : List FocusOption) : Option (String × Bool) :=
  options.head?.map fun o => (o.account, o.includesSubaccounts)

def focusQuery? (options : List FocusOption) : Option Query := options.head?.map query

end FocusOption

end JournalSearch
