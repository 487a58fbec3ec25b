import JournalSearch.Query.Filter

/-!
Queries as trees. Induction gives the property of every term of a choice or a conjunction. A query
exposes the parts that are reached without entering a complement; statements about what is left
alone under complements are about exposed parts.
-/
namespace JournalSearch.Query

/-- Induction on queries that reaches the terms in the lists. -/
@[elab_as_elim, induction_eliminator]
theorem induction {P : Query → Prop} (everything : P everything) (nothing : P nothing)
    (complement : ∀ q, P q → P (complement q))
    (anyOf : ∀ qs, (∀ q ∈ qs, P q) → P (anyOf qs))
    (allOf : ∀ qs, (∀ q ∈ qs, P q) → P (allOf qs))
    (test : ∀ t, P (test t)) (q : Query) : P q := by
  apply @Query.rec P (fun qs => ∀ q ∈ qs, P q) everything nothing complement anyOf allOf test
  · intro q hq
    simp at hq
  · intro first rest hfirst hrest q hq
    rcases List.mem_cons.mp hq with rfl | hq
    · exact hfirst
    · exact hrest q hq

/-- The second query is a part of the first that no complement encloses. -/
inductive Exposes : Query → Query → Prop
  | self (q : Query) : Exposes q q
  | ofAnyOf {qs : List Query} {q part : Query} (hq : q ∈ qs) (h : Exposes q part) :
      Exposes (anyOf qs) part
  | ofAllOf {qs : List Query} {q part : Query} (hq : q ∈ qs) (h : Exposes q part) :
      Exposes (allOf qs) part

@[simp]
theorem exposes_anyOf_iff (qs : List Query) (part : Query) :
    Exposes (anyOf qs) part ↔ part = anyOf qs ∨ ∃ q ∈ qs, Exposes q part := by
  constructor
  · intro h
    cases h with
    | self => exact Or.inl rfl
    | ofAnyOf hq h => exact Or.inr ⟨_, hq, h⟩
  · rintro (rfl | ⟨q, hq, h⟩)
    · exact .self _
    · exact .ofAnyOf hq h

@[simp]
theorem exposes_allOf_iff (qs : List Query) (part : Query) :
    Exposes (allOf qs) part ↔ part = allOf qs ∨ ∃ q ∈ qs, Exposes q part := by
  constructor
  · intro h
    cases h with
    | self => exact Or.inl rfl
    | ofAllOf hq h => exact Or.inr ⟨_, hq, h⟩
  · rintro (rfl | ⟨q, hq, h⟩)
    · exact .self _
    · exact .ofAllOf hq h

/-- Nothing but a choice or a conjunction exposes more than itself. -/
@[simp]
theorem exposes_iff_eq (q part : Query) (hany : ∀ qs, q ≠ anyOf qs) (hall : ∀ qs, q ≠ allOf qs) :
    Exposes q part ↔ part = q := by
  constructor
  · intro h
    cases h with
    | self => rfl
    | ofAnyOf => exact absurd rfl (hany _)
    | ofAllOf => exact absurd rfl (hall _)
  · rintro rfl
    exact .self _

/-! Queries that are single tests of one kind -/

theorem isDate_iff {q : Query} : q.isDate = true ↔ ∃ span, q = test (.date span) := by
  constructor
  · intro h
    match q, h with
    | test (.date span), _ => exact ⟨span, rfl⟩
  · rintro ⟨span, rfl⟩
    rfl

theorem isAccount_iff {q : Query} : q.isAccount = true ↔ ∃ pattern, q = test (.account pattern) := by
  constructor
  · intro h
    match q, h with
    | test (.account pattern), _ => exact ⟨pattern, rfl⟩
  · rintro ⟨pattern, rfl⟩
    rfl

theorem isDescription_iff {q : Query} :
    q.isDescription = true ↔ ∃ pattern, q = test (.description pattern) := by
  constructor
  · intro h
    match q, h with
    | test (.description pattern), _ => exact ⟨pattern, rfl⟩
  · rintro ⟨pattern, rfl⟩
    rfl

end JournalSearch.Query
