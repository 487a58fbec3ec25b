/-!
Names of characters that follow each other. Neighbours often begin with the same words, so a name
says only how it differs from the one before it.
-/
namespace JournalSearch.Unicode

/-- The names of the characters from `first` on. Before each name stands a small letter that says
with how many words of the name before it this one begins, `a` for none, `b` for one, and so on.
The words after these follow. A line may end before any name. -/
structure NameRun where
  first : Nat
  names : String

namespace NameRun

/-- What stands after each small letter, with the number for which the letter stands. -/
def entries (text : List Char) : List (Nat × List Char) :=
  (text.foldr (fun c (word, found) =>
    if c.isLower then ([], (c.toNat - 'a'.toNat, word) :: found) else (c :: word, found))
    ([], [])).2

def inFull (before : List (List Char)) : List (Nat × List Char) → List (List (List Char))
  | [] => []
  | (shared, words) :: rest =>
    let name := before.take shared ++ (words.splitOnP Char.isWhitespace).filter (· ≠ [])
    name :: inFull name rest

def codeOf? (run : NameRun) (name : List (List Char)) : Option Nat :=
  ((inFull [] (entries run.names.toList)).idxOf? name).map (run.first + ·)

end NameRun

end JournalSearch.Unicode
