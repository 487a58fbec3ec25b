import JournalSearch.Period.Interval

/-!
Period expressions: an interval, a range of dates, or both, such as "monthly in 2008" or
"from 2012/5/17 to tomorrow". Letter case and the width of blanks do not matter. An expression
without a range means all dates.
-/
namespace JournalSearch.Period

open Calendar (Date Span)
open Text (lowerWords)

inductive Range where
  /-- The period that a date names. -/
  | within (date : List String)
  /-- From the start of one date's period to the start of another's. -/
  | fromTo (first last : List String)
  | starting (first : List String)
  | ending (last : List String)
  deriving DecidableEq

namespace Range

def isUntil (word : String) : Bool := word = "to" || word = "until"

/-- The words before and after the first "to" or "until" that has words on both sides. -/
def split? : List String → Option (List String × List String)
  | first :: word :: rest =>
    if isUntil word ∧ rest ≠ [] then some ([first], rest)
    else (split? (word :: rest)).map fun (before, after) => (first :: before, after)
  | _ => none

/-- An opening word counts only if words follow it. -/
def ofWords (words : List String) : Range :=
  match words with
  | [] => within []
  | [word] => within [word]
  | word :: rest =>
    if word = "from" ∨ word = "since" then
      match split? rest with
      | some (first, last) => fromTo first last
      | none => starting rest
    else if isUntil word then ending rest
    else if word = "in" then within rest
    else
      match split? words with
      | some (first, last) => fromTo first last
      | none => within words

def resolve (reference : Date) : Range → Except Error Span
  | within date => SmartDate.spanOfWords reference date
  | fromTo first last => do
    let start ← SmartDate.spanOfWords reference first
    let finish ← SmartDate.spanOfWords reference last
    return ⟨start.start, finish.start⟩
  | starting first => do return ⟨(← SmartDate.spanOfWords reference first).start, none⟩
  | ending last => do return ⟨none, (← SmartDate.spanOfWords reference last).start⟩

end Range

def parse (reference : Date) (text : String) : Except Error (Option Interval × Span) :=
  match lowerWords text with
  | [] => return (none, Span.unbounded)
  | words => do
    let (interval, rest) ← Interval.read words
    if rest = [] then return (interval, Span.unbounded)
    return (interval, ← (Range.ofWords rest).resolve reference)

end JournalSearch.Period
