import JournalSearch.Period.SmartDate

/-!
The interval at the head of a period expression: an adverb such as "weekly", or "every" with a
unit and perhaps a count. The last word of an interval ends where a character follows that does
not belong to words; what is glued on there is left to be read as the first word of a range.
-/
namespace JournalSearch.Period

open Calendar (TimeUnit)
open Text (ofDigits? unwords)

structure Interval where
  unit : TimeUnit
  count : Nat
  count_pos : 0 < count
  deriving DecidableEq

namespace Interval

def single (u : TimeUnit) : Interval := ⟨u, 1, Nat.one_pos⟩

def adverbs : List (String × TimeUnit) :=
  [("daily", .day), ("weekly", .week), ("monthly", .month), ("quarterly", .quarter),
    ("yearly", .year)]

/-- What follows a whole word at the beginning of a text. -/
def afterWord? (word : String) (text : List Char) : Option (List Char) :=
  (word.toList.isPrefixOf? text).filter fun rest => !(rest.head?.any Unicode.isWord)

/-- What is glued to the end of an interval goes before the words that follow. -/
def glue (rest : List Char) (words : List String) : List String :=
  if rest = [] then words else String.ofList rest :: words

def adverb? (word : String) : Option (TimeUnit × List Char) :=
  adverbs.findSome? fun (name, u) => (afterWord? name word.toList).map (u, ·)

def unit? (word : String) : Option (TimeUnit × List Char) :=
  SmartDate.unitNames.findSome? fun (name, u) =>
    (afterWord? (name ++ "s") word.toList <|> afterWord? name word.toList).map (u, ·)

def countDigits? (word : String) : Option (List Nat) :=
  (word.toList.mapM Unicode.digitValue?).filter (· ≠ [])

def read (words : List String) : Except Error (Option Interval × List String) :=
  match words with
  | [] => return (none, [])
  | first :: rest =>
    match adverb? first with
    | some (u, glued) => return (some (single u), glue glued rest)
    | none => if first = "every" then every rest else return (none, words)
where
  /-- Reads on after "every". -/
  every (rest : List String) : Except Error (Option Interval × List String) :=
    match counted? rest, uncounted? rest with
    | some (digits, u, more), _ =>
      match ofDigits? digits with
      | .error e => .error (.countTooLong e)
      | .ok count =>
        if h : 0 < count then return (some ⟨u, count, h⟩, more)
        else .error (.countNotPositive (unwords words))
    | none, some (u, more) => return (some (single u), more)
    | none, none => return (none, words)
  counted? : List String → Option (List Nat × TimeUnit × List String)
    | number :: word :: rest => do
      let digits ← countDigits? number
      let (u, glued) ← unit? word
      return (digits, u, glue glued rest)
    | _ => none
  uncounted? : List String → Option (TimeUnit × List String)
    | word :: rest => (unit? word).map fun (u, glued) => (u, glue glued rest)
    | [] => none

end Interval

end JournalSearch.Period
