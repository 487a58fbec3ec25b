import JournalSearch.Proofs.Expression.Labels
import JournalSearch.Proofs.Expression.Writing
import JournalSearch.Proofs.Period.Denotation
import JournalSearch.Proofs.Period.Overlong

/-!
When a search expression cannot be read. Terms are read leniently: what is malformed stands for
itself or matches nothing, dates that the calendar lacks included. The one thing that a reader
refuses is a number with too many digits, and a term has a number in two places only, as a depth and
as the count of a period. The first such term decides what the whole expression is refused with.
-/
namespace JournalSearch.Expression

open Calendar (Date Span)
open Outcome
open Period (HasOverlongCount Means)
open Text (TooManyDigits maxDigits)

/-- The term has a number with too many digits, under any number of negations. -/
inductive IsOverlong : String → TooManyDigits → Prop
  | depth {sign digits : List Char} (hsign : sign = [] ∨ sign = ['-'])
      (hdigits : ∀ c ∈ digits, c.isDigit = true) (hmany : maxDigits < digits.length) :
      IsOverlong (Field.depth.label ++ String.ofList (sign ++ digits)) ⟨digits.length⟩
  | period {field : Field} {value : String} {e : TooManyDigits}
      (hfield : field = .date ∨ field = .effectiveDate)
      (hcount : HasOverlongCount (Text.normalize value) e) : IsOverlong (field.label ++ value) e
  | negated {text : String} {e : TooManyDigits} (h : IsOverlong text e) :
      IsOverlong (negation ++ text) e

variable {reference : Date} {field : Field} {text value : String} {e : TooManyDigits}

theorem readSpan_eq_error_iff {test : Span → Test} :
    readSpan (.ofReference reference) test value = .error e ↔
      HasOverlongCount (Text.normalize value) e := by
  rw [← Period.parse_eq_countTooLong_iff reference, readSpan]
  simp only [Dating.ofReference]
  cases Period.parse reference value with
  | ok result => simp
  | error why => cases why <;> simp

/-- Of the text after a label only a depth or a period is ever refused. -/
theorem isOverlong_of_readField (h : readField (.ofReference reference) field value = .error e) :
    IsOverlong (field.label ++ value) e := by
  have hspan (test : Span → Test) (hfield : field = .date ∨ field = .effectiveDate)
      (h : (do return .query (← readSpan (.ofReference reference) test value) :
        Except TooManyDigits Term) = .error e) :
      IsOverlong (field.label ++ value) e :=
    .period hfield (readSpan_eq_error_iff.mp (bind_pure_eq_error_iff.mp h))
  cases field with
  | date => exact hspan _ (.inl rfl) h
  | effectiveDate => exact hspan _ (.inr rfl) h
  | depth =>
    obtain ⟨sign, digits, htext, hsign, hdigits, hmany, rfl⟩ :=
      Text.readInt_eq_error_iff.mp (bind_pure_eq_error_iff.mp h)
    rw [← String.ofList_toList (s := value), htext]
    exact .depth hsign hdigits hmany
  | _ => cases h

/-- What is refused has negations in front of a label, and the text after the label is refused. -/
theorem isOverlong_of_readPositive {chars : List Char}
    (h : readPositive (.ofReference reference) (stripNegations chars).2 = .error e) :
    IsOverlong (String.ofList chars) e := by
  induction chars using stripNegations.induct with
  | case1 chars rest hafter _ _ _ _ ih =>
    obtain rfl := List.isPrefixOf?_eq_some_iff_append_eq.mp hafter
    rw [stripNegations_negation] at h
    rw [String.ofList_append, String.ofList_toList]
    exact .negated (ih h)
  | case2 chars hnone =>
    rw [stripNegations_of_isPrefixOf?_eq_none hnone, readPositive] at h
    split at h
    · next field value hfield =>
      obtain rfl : chars = _ := (field?_eq_some_iff Field.mem_all).mp hfield
      rw [String.ofList_append, String.ofList_toList]
      exact isOverlong_of_readField h
    · split_ifs at h
      · cases h
      · cases h

theorem readTerm_of_isOverlong (h : IsOverlong text e) :
    readTerm (.ofReference reference) text = .error e := by
  induction h with
  | @depth sign digits hsign hdigits hmany =>
    rw [readTerm_label, readField, bind_pure_eq_error_iff]
    refine Text.readInt_eq_error_iff.mpr ⟨sign, digits, ?_, hsign, hdigits, hmany, rfl⟩
    rw [String.toList_ofList]
  | period hfield hcount =>
    rw [readTerm_label]
    rcases hfield with rfl | rfl
    · exact bind_pure_eq_error_iff.mpr (readSpan_eq_error_iff.mpr hcount)
    · exact bind_pure_eq_error_iff.mpr (readSpan_eq_error_iff.mpr hcount)
  | negated _ ih => exact readTerm_negation_eq_error_iff.mpr ih

/-- A term is refused exactly if it has a number with too many digits, and with that number. -/
theorem readTerm_eq_error_iff_isOverlong :
    readTerm (.ofReference reference) text = .error e ↔ IsOverlong text e := by
  refine ⟨fun h => ?_, readTerm_of_isOverlong⟩
  rw [← String.ofList_toList (s := text)]
  exact isOverlong_of_readPositive (readTerm_eq_error_iff.mp h)

theorem readSpan_eq_nothing_iff (test : Span → Test) :
    readSpan (.ofReference reference) test value = .ok .nothing ↔
      (∀ result, ¬Means reference (Text.normalize value) result) ∧
        ∀ e, ¬HasOverlongCount (Text.normalize value) e := by
  have hmeans (result) :
      Means reference (Text.normalize value) result ↔ Period.parse reference value = .ok result :=
    ⟨Period.parse_of_means, Period.means_of_parse⟩
  simp only [hmeans, ← Period.parse_eq_countTooLong_iff reference]
  rw [readSpan]
  simp only [Dating.ofReference]
  cases Period.parse reference value with
  | ok result => simp
  | error why => cases why <;> simp

theorem readTerm_eq_nothing_iff (hfield : field = .date ∨ field = .effectiveDate) :
    readTerm (.ofReference reference) (field.label ++ value) = .ok (.query .nothing) ↔
      (∀ result, ¬Means reference (Text.normalize value) result) ∧
        ∀ e, ¬HasOverlongCount (Text.normalize value) e := by
  rw [readTerm_label]
  rcases hfield with rfl | rfl
  · rw [← readSpan_eq_nothing_iff .date, readField]
    simp
  · rw [← readSpan_eq_nothing_iff .effectiveDate, readField]
    simp

theorem parse_eq_error_iff {dating : Dating} {labels : List String} :
    parse dating labels text = .error e ↔ readTerms dating labels text = .error e := by
  rw [parse, bind_pure_eq_error_iff]

/-- An expression is refused exactly if one of its terms has a number with too many digits, and the
first such term is the reason. All other expressions are read, and a period in them that cannot be
read matches nothing. -/
theorem parse_refuses_iff (reference : Date) (labels : List String) (text : String) :
    ((∃ e, parse (.ofReference reference) labels text = .error e) ↔
        ∃ token ∈ tokens labels text, ∃ e, IsOverlong token.value e) ∧
      ((∃ found, parse (.ofReference reference) labels text = .ok found) ↔
        ∀ token ∈ tokens labels text, ∀ e, ¬IsOverlong token.value e) ∧
      (∀ e, parse (.ofReference reference) labels text = .error e ↔
        ∃ before token after, tokens labels text = before ++ token :: after ∧
          (∀ earlier ∈ before, ∀ e', ¬IsOverlong earlier.value e') ∧ IsOverlong token.value e) ∧
      ∀ (field : Field) (value : String), field = .date ∨ field = .effectiveDate →
        (readTerm (.ofReference reference) (field.label ++ value) = .ok (.query .nothing) ↔
          (∀ result, ¬Means reference (Text.normalize value) result) ∧
            ∀ e, ¬HasOverlongCount (Text.normalize value) e) := by
  have hrefused : (∃ e, parse (.ofReference reference) labels text = .error e) ↔
      ∃ token ∈ tokens labels text, ∃ e, IsOverlong token.value e := by
    simp only [parse_eq_error_iff, readTerms, exists_mapM_eq_error_iff,
      readTerm_eq_error_iff_isOverlong]
  refine ⟨hrefused, ?_, fun e => ?_, fun field value => readTerm_eq_nothing_iff⟩
  · rw [exists_ok_iff, hrefused]
    simp
  · simp only [parse_eq_error_iff, readTerms, mapM_eq_error_iff, exists_ok_iff,
      readTerm_eq_error_iff_isOverlong, not_exists]

/-- An excluded depth of too many digits, and a month that no year has. -/
theorem parse_refuses_iff_of_depth :
    parse (.ofReference ⟨2012, 5, 16, by decide, by decide, by decide⟩) Field.labels
        ("not:depth:-" ++ String.ofList (List.replicate 4301 '9')) = .error ⟨4301⟩ ∧
      (Field.date = .date ∨ Field.date = .effectiveDate) ∧
      readTerm (.ofReference ⟨2012, 5, 16, by decide, by decide, by decide⟩)
        (Field.date.label ++ "2012/13") = .ok (.query .nothing) := by
  have hlength : (List.replicate 4301 '9').length = 4301 := List.length_replicate
  have hnines : ∀ c ∈ List.replicate 4301 '9', c = '9' := fun c hc => List.eq_of_mem_replicate hc
  generalize List.replicate 4301 '9' = nines at hlength hnines ⊢
  have hoverlong : IsOverlong ("not:depth:-" ++ String.ofList nines) ⟨4301⟩ := by
    have hdigits : ∀ c ∈ nines, c.isDigit = true := fun c hc => by
      rw [hnines c hc]
      decide
    have hmany : maxDigits < nines.length := by
      rw [hlength]
      decide
    have hnegated := (IsOverlong.depth (.inr rfl) hdigits hmany).negated
    rw [hlength, String.ofList_append, ← String.append_assoc, ← String.append_assoc] at hnegated
    exact hnegated
  have hplain : ∀ c ∈ ("not:depth:-" ++ String.ofList nines).toList,
      isQuote c = false ∧ isSeparator c = false := by
    rw [String.toList_append]
    refine List.forall_mem_append.mpr ⟨by simp [isQuote, isSeparator], fun c hc => ?_⟩
    rw [String.toList_ofList] at hc
    rw [hnines c hc]
    decide
  have hperiod : Period.parse ⟨2012, 5, 16, by decide, by decide, by decide⟩ "2012/13" =
      .error (.impossible "2012/13" .monthOutOfRange) := rfl
  obtain ⟨-, -, hreason, hnothing⟩ := parse_refuses_iff
    ⟨2012, 5, 16, by decide, by decide, by decide⟩ Field.labels
    ("not:depth:-" ++ String.ofList nines)
  refine ⟨(hreason _).mpr ?_, .inl rfl, (hnothing .date "2012/13" (.inl rfl)).mpr ⟨?_, ?_⟩⟩
  · obtain ⟨token, htokens, hvalue⟩ :=
      List.map_eq_singleton_iff.mp (values_tokens_plain (by simp) hplain)
    refine ⟨[], token, [], htokens, List.forall_mem_nil _, ?_⟩
    rwa [hvalue]
  · intro result hmeans
    have hread := Period.parse_of_means hmeans
    rw [hperiod] at hread
    cases hread
  · intro e hcount
    rw [← Period.parse_eq_countTooLong_iff, hperiod] at hcount
    cases hcount

end JournalSearch.Expression
