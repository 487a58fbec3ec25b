import JournalSearch.Expression.TermText
import JournalSearch.Proofs.Expression.Labels
import JournalSearch.Proofs.Period.DateText
import JournalSearch.Proofs.Query.Tree

/-!
Terms that are read as they were written. What a pattern or an account looks like does not matter:
the label in front of it ends the reading of labels and negations. A span is read back if its bounds
lie before the last day of the calendar, and a depth if it does not have too many digits.
-/
namespace JournalSearch.Expression

open Calendar (Date Span)
open Outcome
open Text (maxDigits writeInt)

/-- The test is within what readers accept: no bound is the last day of the calendar, and a depth
has no more digits than can be read. -/
def TestFits : Test → Prop
  | .date span | .effectiveDate span =>
    (∀ day ∈ span.start, day < .last) ∧ ∀ day ∈ span.finish, day < .last
  | .depth limit => (Nat.toDigits 10 limit.natAbs).length ≤ maxDigits
  | .description _ | .account _ | .cleared _ | .real _ | .showEmpty _ => True

def QueryFits : Query → Prop
  | .complement q => QueryFits q
  | .test t => TestFits t
  | .everything | .nothing | .anyOf _ | .allOf _ => True

def Term.Fits : Term → Prop
  | query q => QueryFits q
  | option _ => True

variable {reference : Date}

theorem readFlag_writeFlag (value : Bool) : readFlag (writeFlag value) = value := by
  cases value <;> decide

theorem readCleared_writeFlag (value : Bool) : readCleared (writeFlag value) = value := by
  cases value <;> decide

theorem readSpan_expression {span : Span} (hstart : ∀ day ∈ span.start, day < .last)
    (hfinish : ∀ day ∈ span.finish, day < .last) (test : Span → Test) :
    readSpan (.ofReference reference) test span.expression = .ok (.test (test span)) := by
  simp only [readSpan, Dating.ofReference, Period.parse_expression hstart hfinish]

/-- The field of a test reads the test from its text. -/
theorem readField_writeTest {t : Test} (h : TestFits t) :
    readField (.ofReference reference) (fieldOfTest t) (writeTest t) = .ok (.query (.test t)) := by
  cases t with
  | description pattern => rfl
  | account pattern => rfl
  | date span =>
    exact bind_eq_ok_iff.mpr ⟨_, readSpan_expression h.1 h.2 _, rfl⟩
  | effectiveDate span =>
    exact bind_eq_ok_iff.mpr ⟨_, readSpan_expression h.1 h.2 _, rfl⟩
  | cleared value =>
    rw [fieldOfTest, writeTest, readField, readCleared_writeFlag]
    rfl
  | real value =>
    rw [fieldOfTest, writeTest, readField, readFlag_writeFlag]
    rfl
  | showEmpty value =>
    rw [fieldOfTest, writeTest, readField, readFlag_writeFlag]
    rfl
  | depth limit =>
    exact bind_eq_ok_iff.mpr ⟨limit, Text.readInt_writeInt 0 limit h, rfl⟩

theorem readField_account {dating : Dating} (o : FocusOption) :
    readField dating (fieldOfOption o) o.account = .ok (.option o) := by
  cases o <;> rfl

theorem readTerm_writeQuery? {q : Query} {text : String} (hwrite : writeQuery? q = some text)
    (hfits : QueryFits q) : readTerm (.ofReference reference) text = .ok (.query q) := by
  induction q generalizing text with
  | everything =>
    cases hwrite
    exact readTerm_empty
  | complement q ih =>
    obtain ⟨inner, hinner, rfl⟩ := Option.map_eq_some_iff.mp hwrite
    exact readTerm_negation (ih hinner hfits)
  | test t =>
    cases hwrite
    exact readTerm_label_eq_ok_iff.mpr (readField_writeTest hfits)
  | nothing => cases hwrite
  | anyOf qs => cases hwrite
  | allOf qs => cases hwrite

/-- The text of a term is read as that term, from any reference date. -/
theorem readTerm_write? {term : Term} {text : String} (hwrite : term.write? = some text)
    (hfits : term.Fits) (reference : Date) :
    readTerm (.ofReference reference) text = .ok term := by
  cases term with
  | query q => exact readTerm_writeQuery? hwrite hfits
  | option o =>
    cases hwrite
    exact readTerm_label_eq_ok_iff.mpr (readField_account o)

/-- An inverted span under two complements. -/
theorem readTerm_write?_inverted :
    ∃ term : Term, term.write? = some "not:not:date:from 2013-01-01 to 2012-05-17" ∧ term.Fits ∧
      readTerm (.ofReference ⟨2008, 2, 29, by decide, by decide, by decide⟩)
        "not:not:date:from 2013-01-01 to 2012-05-17" = .ok term := by
  let span : Span :=
    ⟨some ⟨2013, 1, 1, by decide, by decide, by decide⟩,
      some ⟨2012, 5, 17, by decide, by decide, by decide⟩⟩
  let term : Term := .query (.complement (.complement (.test (.date span))))
  have hwrite : term.write? = some "not:not:date:from 2013-01-01 to 2012-05-17" := by decide
  have hstart : ∀ day ∈ span.start, day < .last := by
    rintro day ⟨⟩
    decide
  have hfinish : ∀ day ∈ span.finish, day < .last := by
    rintro day ⟨⟩
    decide
  exact ⟨term, hwrite, ⟨hstart, hfinish⟩, readTerm_write? hwrite ⟨hstart, hfinish⟩ _⟩

end JournalSearch.Expression
