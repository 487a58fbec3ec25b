import JournalSearch.Proofs.Pattern.Anchored
import JournalSearch.Query.Focus
import JournalSearch.Query.Match

/-!
Accounts in focus. The pattern for an account is its name, escaped, between an anchor at the start
and an end. The end is that of the text or, if subaccounts are included, a colon as well. Since an
escaped name is read as its own characters, the query selects the account and what goes on after a
colon, whatever characters the name has.
-/
namespace JournalSearch

open Pattern (SameText)

/-- But for case, the account is the one in focus, or one of its subaccounts if these are included.
A line end after the name makes no difference. -/
def InFocus (account : String) (withSubaccounts : Bool) (name : String) : Prop :=
  ∃ x rest, name.toList = x ++ rest ∧ SameText x account.toList ∧
    (rest = [] ∨ rest = ['\n'] ∨ withSubaccounts = true ∧ ∃ more, rest = ':' :: more)

namespace AccountName

theorem search_exactPattern (account : String) :
    (∃ p, Pattern.parse (exactPattern account) = .ok p) ∧
      ∀ name, ∃ found : Bool, Pattern.search (exactPattern account) name = .ok found ∧
        (found = true ↔ InFocus account false name) := by
  have hpattern : (exactPattern account).toList =
      '^' :: (account.toList.flatMap Pattern.escapeChar ++ ['$']) := by
    simp [exactPattern, Pattern.escape]
  have hsearch := Pattern.exists_search_anchored Pattern.readsAs_textEnd ⟨rfl, rfl, rfl⟩
    Pattern.endsAs_textEnd account hpattern
  simpa [InFocus] using hsearch

theorem search_subtreePattern (account : String) :
    (∃ p, Pattern.parse (subtreePattern account) = .ok p) ∧
      ∀ name, ∃ found : Bool, Pattern.search (subtreePattern account) name = .ok found ∧
        (found = true ↔ InFocus account true name) := by
  have hpattern : (subtreePattern account).toList =
      '^' :: (account.toList.flatMap Pattern.escapeChar ++ "(:|$)".toList) := by
    simp [subtreePattern, Pattern.escape]
  have hsearch := Pattern.exists_search_anchored Pattern.readsAs_colonOrEnd ⟨rfl, rfl, rfl⟩
    Pattern.endsAs_colonOrEnd account hpattern
  simpa [InFocus] using hsearch

end AccountName

namespace FocusOption

/-- The first option says which account is in focus, and its query selects, by a pattern that is
always well formed, the accounts in focus. -/
theorem focusQuery?_selects (o : FocusOption) (options : List FocusOption) :
    focus? (o :: options) = some (o.account, o.includesSubaccounts) ∧
      ∃ pattern, focusQuery? (o :: options) = some (.test (.account pattern)) ∧
        (∃ p, Pattern.parse pattern = .ok p) ∧
        ∀ name, ∃ found : Bool,
          Query.matchesAccount Pattern.search (.test (.account pattern)) name = .ok found ∧
            (found = true ↔ InFocus o.account o.includesSubaccounts name) := by
  have hmatches : ∀ pattern name,
      Query.matchesAccount Pattern.search (.test (.account pattern)) name =
        Pattern.search pattern name :=
    fun _ _ => rfl
  simp only [hmatches]
  refine ⟨rfl, ?_⟩
  cases o with
  | exactly account =>
    exact ⟨AccountName.exactPattern account, rfl, AccountName.search_exactPattern account⟩
  | withSubaccounts account =>
    exact ⟨AccountName.subtreePattern account, rfl, AccountName.search_subtreePattern account⟩

end FocusOption

end JournalSearch
