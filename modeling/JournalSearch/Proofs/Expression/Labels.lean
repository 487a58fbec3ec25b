import JournalSearch.Expression.Parse
import JournalSearch.Proofs.Outcome

/-!
What is in front of a term. No label begins with another, nor with the negation, so a text begins
with the label of one field at most, and that field reads what is after the label. A negation in
front of a text negates the term that is read from the text.
-/
namespace JournalSearch.Expression

open List (isPrefixOf?_eq_some_iff_append_eq)
open Outcome

namespace Field

theorem mem_all (field : Field) : field ∈ all := by
  cases field <;> decide

theorem eq_of_label_isPrefix {f g : Field} (h : f.label.toList <+: g.label.toList) : f = g := by
  have hall : ∀ f ∈ all, ∀ g ∈ all, f.label.toList <+: g.label.toList → f = g := by
    decide
  exact hall f f.mem_all g g.mem_all h

/-- A text begins with the label of one field at most. -/
theorem eq_of_label_append_eq {f g : Field} {rest rest' : List Char}
    (h : f.label.toList ++ rest = g.label.toList ++ rest') : f = g := by
  have hf : f.label.toList <+: f.label.toList ++ rest := List.prefix_append _ _
  have hg : g.label.toList <+: f.label.toList ++ rest := h ▸ List.prefix_append _ _
  rcases List.prefix_or_prefix_of_prefix hf hg with hfg | hgf
  · exact eq_of_label_isPrefix hfg
  · exact (eq_of_label_isPrefix hgf).symm

end Field

variable {dating : Dating} {fields : List Field} {field : Field} {text value : List Char}
  {term : Term}

/-- The field is found wherever its label stands in the table. -/
theorem field?_eq_some_iff (hfields : ∀ field, field ∈ fields) :
    field? fields text = some (field, value) ↔ text = field.label.toList ++ value := by
  constructor
  · intro h
    obtain ⟨found, -, hfound⟩ := List.exists_of_findSome?_eq_some h
    obtain ⟨rest, hrest, hpair⟩ := Option.map_eq_some_iff.mp hfound
    cases hpair
    exact (isPrefixOf?_eq_some_iff_append_eq.mp hrest).symm
  · rintro rfl
    cases hfound : field? fields (field.label.toList ++ value) with
    | none =>
      have hnone := List.findSome?_eq_none_iff.mp hfound field (hfields field)
      rw [Option.map_eq_none_iff, isPrefixOf?_eq_some_iff_append_eq.mpr rfl] at hnone
      cases hnone
    | some pair =>
      obtain ⟨found, -, hsome⟩ := List.exists_of_findSome?_eq_some hfound
      obtain ⟨rest, hrest, rfl⟩ := Option.map_eq_some_iff.mp hsome
      have hsame := isPrefixOf?_eq_some_iff_append_eq.mp hrest
      obtain rfl := Field.eq_of_label_append_eq hsame
      rw [List.append_cancel_left hsame]

theorem stripNegations_negation (text : List Char) :
    stripNegations (negation.toList ++ text) =
      ((stripNegations text).1 + 1, (stripNegations text).2) := by
  rw [stripNegations]
  split
  · next rest h =>
    rw [isPrefixOf?_eq_some_iff_append_eq] at h
    obtain rfl := List.append_cancel_left h
    rfl
  · next h =>
    rw [isPrefixOf?_eq_some_iff_append_eq.mpr rfl] at h
    cases h

theorem stripNegations_of_isPrefixOf?_eq_none (h : negation.toList.isPrefixOf? text = none) :
    stripNegations text = (0, text) := by
  rw [stripNegations]
  split
  · next rest hsome =>
    rw [h] at hsome
    cases hsome
  · rfl

theorem isPrefixOf?_negation_label (field : Field) (value : List Char) :
    negation.toList.isPrefixOf? (field.label.toList ++ value) = none := by
  cases field <;> rfl

@[simp]
theorem Term.negate_zero (term : Term) : term.negate 0 = term := by
  cases term <;> rfl

/-- One negation more. -/
theorem Term.negate_succ (count : Nat) (term : Term) :
    term.negate (count + 1) = (term.negate count).negate 1 := by
  cases term with
  | query q => rfl
  | option o => cases count <;> rfl

theorem readTerm_eq_ok_iff {text : String} :
    readTerm dating text = .ok term ↔
      ∃ positive, readPositive dating (stripNegations text.toList).2 = .ok positive ∧
        positive.negate (stripNegations text.toList).1 = term := by
  simp [readTerm]

/-- Nothing but what is after the negations can fail to be read. -/
theorem readTerm_eq_error_iff {text : String} {e : Text.TooManyDigits} :
    readTerm dating text = .error e ↔
      readPositive dating (stripNegations text.toList).2 = .error e := by
  rw [readTerm, bind_pure_eq_error_iff]

theorem readTerm_negation_eq_error_iff {text : String} {e : Text.TooManyDigits} :
    readTerm dating (negation ++ text) = .error e ↔ readTerm dating text = .error e := by
  rw [readTerm_eq_error_iff, readTerm_eq_error_iff, String.toList_append, stripNegations_negation]

/-- A negation in front of a text negates the term that is read from it. -/
theorem readTerm_negation {text : String} (h : readTerm dating text = .ok term) :
    readTerm dating (negation ++ text) = .ok (term.negate 1) := by
  obtain ⟨positive, hpositive, rfl⟩ := readTerm_eq_ok_iff.mp h
  refine readTerm_eq_ok_iff.mpr ⟨positive, ?_, ?_⟩
  · rw [String.toList_append, stripNegations_negation]
    exact hpositive
  · rw [String.toList_append, stripNegations_negation, Term.negate_succ]

/-- A text without a negation in front is read as it stands. -/
theorem readTerm_of_isPrefixOf?_eq_none {text : String}
    (h : negation.toList.isPrefixOf? text.toList = none) :
    readTerm dating text = readPositive dating text.toList := by
  rw [readTerm, stripNegations_of_isPrefixOf?_eq_none h]
  simp only [Term.negate_zero, bind_pure]

/-- A label decides how the text after it is read. -/
theorem readTerm_label (field : Field) (value : String) :
    readTerm dating (field.label ++ value) = readField dating field value := by
  have hnone : negation.toList.isPrefixOf? (field.label.toList ++ value.toList) = none :=
    isPrefixOf?_negation_label field value.toList
  rw [← String.toList_append] at hnone
  rw [readTerm_of_isPrefixOf?_eq_none hnone, String.toList_append, readPositive,
    (field?_eq_some_iff Field.mem_all).mpr rfl]
  exact congrArg (readField dating field) String.ofList_toList

theorem readTerm_label_eq_ok_iff {value : String} :
    readTerm dating (field.label ++ value) = .ok term ↔
      readField dating field value = .ok term := by
  rw [readTerm_label]

theorem readTerm_empty : readTerm dating "" = .ok (.query .everything) :=
  readTerm_of_isPrefixOf?_eq_none rfl

/-- A term is what a field reads after its label, or demands nothing, or is an account, or has a
negation in front. -/
theorem readTerm_cases {text : String} (h : readTerm dating text = .ok term) :
    (∃ field value, text = field.label ++ value ∧ readField dating field value = .ok term) ∨
      term = .query .everything ∨ term = .query (.test (.account text)) ∨
      ∃ q, term = .query (.complement q) := by
  cases hafter : negation.toList.isPrefixOf? text.toList with
  | none =>
    rw [readTerm_of_isPrefixOf?_eq_none hafter, readPositive] at h
    split at h
    · next field value hfield =>
      have htext := (field?_eq_some_iff Field.mem_all).mp hfield
      refine .inl ⟨field, String.ofList value, ?_, h⟩
      rw [← String.ofList_toList (s := text), htext, String.ofList_append, String.ofList_toList]
    · split_ifs at h
      · cases h
        exact .inr (.inl rfl)
      · cases h
        rw [String.ofList_toList]
        exact .inr (.inr (.inl rfl))
  | some rest =>
    obtain ⟨positive, -, hterm⟩ := readTerm_eq_ok_iff.mp h
    rw [← isPrefixOf?_eq_some_iff_append_eq.mp hafter, stripNegations_negation] at hterm
    subst hterm
    generalize (stripNegations rest).1 = count
    cases positive with
    | query q => exact .inr (.inr (.inr ⟨complements count q, rfl⟩))
    | option o =>
      cases count with
      | zero => exact .inr (.inl rfl)
      | succ count => exact .inr (.inr (.inr ⟨complements count .everything, rfl⟩))

end JournalSearch.Expression
