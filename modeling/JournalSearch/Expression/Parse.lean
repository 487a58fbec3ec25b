import JournalSearch.Expression.Token
import JournalSearch.Period.Expression
import JournalSearch.Query.Focus
import JournalSearch.Query.Simplify

/-!
Search expressions and their terms. A term is a query on one field or an option for the report. A
label says which field is meant, and a term without one is about the account. Negations in front of
a term each enclose the query in a complement; what a negation does to an option is to drop it. A
period that cannot be read makes a query that matches nothing, so that malformed terms are no
errors. Of an expression's terms, those on accounts offer a choice, those on descriptions offer
another, and all others are demanded. Options are kept apart, in order.
-/
namespace JournalSearch.Expression

open Calendar (Date Span)
open Period (Interval)
open Text (TooManyDigits readInt)

inductive Term where
  | query (q : Query)
  | option (o : FocusOption)
  deriving DecidableEq

def Term.query? : Term → Option Query
  | query q => some q
  | option _ => none

def Term.option? : Term → Option FocusOption
  | query _ => none
  | option o => some o

/-- How the dates of a search expression are read. -/
structure Dating where
  reference : Date
  readPeriod : Date → String → Except Period.Error (Option Interval × Span)

def Dating.ofReference (reference : Date) : Dating := ⟨reference, Period.parse⟩

def trueTexts : List String := ["1", "t", "true"]

/-- Reads a flag. Any text but the three spellings of true is false. -/
def readFlag (text : String) : Bool := trueTexts.contains text

def readCleared (text : String) : Bool := readFlag text || text == "*"

/-- A test of the span that a text names. The only fault that is not taken for an empty period is
a count that is too long to be read. -/
def readSpan (dating : Dating) (test : Span → Test) (text : String) : Except TooManyDigits Query :=
  match dating.readPeriod dating.reference text with
  | .ok (_, span) => .ok (.test (test span))
  | .error (.countTooLong why) => .error why
  | .error _ => .ok .nothing

def readField (dating : Dating) (field : Field) (text : String) : Except TooManyDigits Term :=
  match field with
  | .focusExactly => return .option (.exactly text)
  | .focus => return .option (.withSubaccounts text)
  | .description => return .query (.test (.description text))
  | .account => return .query (.test (.account text))
  | .date => do return .query (← readSpan dating .date text)
  | .effectiveDate => do return .query (← readSpan dating .effectiveDate text)
  | .cleared => return .query (.test (.cleared (readCleared text)))
  | .real => return .query (.test (.real (readFlag text)))
  | .showEmpty => return .query (.test (.showEmpty (readFlag text)))
  | .depth => do return .query (.test (.depth (← readInt 0 text)))

def field? (fields : List Field) (text : List Char) : Option (Field × List Char) :=
  fields.findSome? fun field => (field.label.toList.isPrefixOf? text).map (field, ·)

def readPositive (dating : Dating) (text : List Char) : Except TooManyDigits Term :=
  match field? Field.all text with
  | some (field, value) => readField dating field (String.ofList value)
  | none =>
    if text = [] then return .query .everything
    else return .query (.test (.account (String.ofList text)))

theorem length_lt_of_isPrefixOf?_negation {text rest : List Char}
    (h : negation.toList.isPrefixOf? text = some rest) : rest.length < text.length := by
  have whole := Text.length_of_isPrefixOf? h
  have : negation.toList.length = 4 := by decide
  omega

def stripNegations (text : List Char) : Nat × List Char :=
  match h : negation.toList.isPrefixOf? text with
  | some rest =>
    have := length_lt_of_isPrefixOf?_negation h
    let (count, positive) := stripNegations rest
    (count + 1, positive)
  | none => (0, text)
termination_by text.length

def complements : Nat → Query → Query
  | 0, q => q
  | count + 1, q => .complement (complements count q)

/-- So many negations of a term. The innermost one turns an option into the query that demands
nothing. -/
def Term.negate : Nat → Term → Term
  | count, query q => query (complements count q)
  | 0, option o => option o
  | count + 1, option _ => query (complements count .everything)

def readTerm (dating : Dating) (text : String) : Except TooManyDigits Term := do
  let (count, positive) := stripNegations text.toList
  return (← readPositive dating positive).negate count

/-! Expressions -/

/-- The query that an expression stands for, and the options it sets. -/
structure Search where
  query : Query
  options : List FocusOption
  deriving DecidableEq

def combine (qs : List Query) : Query :=
  .allOf ([.anyOf (qs.filter Query.isAccount), .anyOf (qs.filter Query.isDescription)]
    ++ qs.filter fun q => !(q.isAccount || q.isDescription))

def readTerms (dating : Dating) (labels : List String) (text : String) :
    Except TooManyDigits (List Term) :=
  (tokens labels text).mapM fun token => readTerm dating token.value

def parse (dating : Dating) (labels : List String) (text : String) :
    Except TooManyDigits Search := do
  let terms ← readTerms dating labels text
  return ⟨(combine (terms.filterMap Term.query?)).simplify, terms.filterMap Term.option?⟩

end JournalSearch.Expression
