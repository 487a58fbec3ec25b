import JournalSearch.Proofs.Query.Verdict
import JournalSearch.Query.Filter

/-!
What filtering does to verdicts. The terms that a predicate keeps and those that its negation keeps
are together all terms. A conjunction holds if both parts hold and a choice if one of them does; a
query that is a single term is one of its parts, and the other part demands nothing.
-/
namespace JournalSearch.Query

variable {rule : Test → Bool} {keep other : Query → Bool} {q : Query} {qs : List Query}

theorem eval_allOf_filter_iff :
    eval rule (allOf qs) = true ↔
      eval rule (allOf (qs.filter keep)) = true ∧
        eval rule (allOf (qs.filter fun q => !keep q)) = true := by
  simp only [eval_allOf_iff, List.mem_filter, Bool.not_eq_true']
  constructor
  · intro hall
    exact ⟨fun q hq => hall q hq.1, fun q hq => hall q hq.1⟩
  · rintro ⟨hkept, hdropped⟩ q hq
    cases hkeep : keep q with
    | true => exact hkept q ⟨hq, hkeep⟩
    | false => exact hdropped q ⟨hq, hkeep⟩

theorem eval_anyOf_filter_iff :
    eval rule (anyOf qs) = true ↔
      eval rule (anyOf (qs.filter keep)) = true ∨
        eval rule (anyOf (qs.filter fun q => !keep q)) = true := by
  simp only [eval_anyOf_iff, List.mem_filter, Bool.not_eq_true']
  constructor
  · rintro ⟨q, hq, hholds⟩
    cases hkeep : keep q with
    | true => exact .inl ⟨q, ⟨hq, hkeep⟩, hholds⟩
    | false => exact .inr ⟨q, ⟨hq, hkeep⟩, hholds⟩
  · rintro (⟨q, hq, hholds⟩ | ⟨q, hq, hholds⟩)
    · exact ⟨q, hq.1, hholds⟩
    · exact ⟨q, hq.1, hholds⟩

def IsTerm (q : Query) : Prop := (∀ qs, q ≠ allOf qs) ∧ ∀ qs, q ≠ anyOf qs

theorem filterTerms_of_isTerm (h : IsTerm q) (keep : Query → Bool) :
    q.filterTerms keep = if keep q then q else everything := by
  cases q with
  | allOf qs => exact absurd rfl (h.1 qs)
  | anyOf qs => exact absurd rfl (h.2 qs)
  | _ => rfl

/-- Of a single term one part is the term, and the other demands nothing. -/
theorem eval_filterTerms_iff_of_isTerm (h : IsTerm q) :
    eval rule q = true ↔
      eval rule (q.filterTerms keep) = true ∧
        eval rule (q.filterTerms fun t => !keep t) = true := by
  have heverything : eval rule everything = true := rfl
  rw [filterTerms_of_isTerm h, filterTerms_of_isTerm h]
  cases keep q <;> simp [heverything]

theorem eval_filterTerms_iff (h : ∀ qs, q ≠ anyOf qs) :
    eval rule q = true ↔
      eval rule (q.filterTerms keep) = true ∧
        eval rule (q.filterTerms fun t => !keep t) = true := by
  cases q with
  | allOf qs => exact eval_allOf_filter_iff
  | anyOf qs => exact absurd rfl (h qs)
  | _ => exact eval_filterTerms_iff_of_isTerm ⟨nofun, nofun⟩

theorem filterTerms_everything (keep : Query → Bool) :
    everything.filterTerms keep = everything :=
  ite_self everything

/-- To filter twice is to filter by both predicates at once. -/
theorem filterTerms_filterTerms (keep other : Query → Bool) (q : Query) :
    (q.filterTerms keep).filterTerms other = q.filterTerms fun t => keep t && other t := by
  have hterm (h : IsTerm q) : (q.filterTerms keep).filterTerms other =
      q.filterTerms fun t => keep t && other t := by
    rw [filterTerms_of_isTerm h, filterTerms_of_isTerm h]
    cases keep q with
    | true => simpa using filterTerms_of_isTerm h other
    | false => simpa using filterTerms_everything other
  cases q with
  | allOf qs => simp only [filterTerms, List.filter_filter, Bool.and_comm]
  | anyOf qs => simp only [filterTerms, List.filter_filter, Bool.and_comm]
  | _ => exact hterm ⟨nofun, nofun⟩

/-- A query is matched by what matches both the terms that are kept and those that are dropped, or,
if it is a choice, one of the two. Two predicates may be used in either order or at once. -/
theorem verdict_filterTerms (search : String → String → Bool) (keep : Query → Bool) (q : Query) :
    (∀ e : Entity,
      ((∀ qs, q ≠ anyOf qs) →
        (Id.run (e.verdict search q) = true ↔
          Id.run (e.verdict search (q.filterTerms keep)) = true ∧
            Id.run (e.verdict search (q.filterTerms fun t => !keep t)) = true)) ∧
      ((∃ qs, q = anyOf qs) →
        (Id.run (e.verdict search q) = true ↔
          Id.run (e.verdict search (q.filterTerms keep)) = true ∨
            Id.run (e.verdict search (q.filterTerms fun t => !keep t)) = true))) ∧
      ∀ other : Query → Bool,
        (q.filterTerms keep).filterTerms other = (q.filterTerms other).filterTerms keep ∧
          (q.filterTerms keep).filterTerms other = q.filterTerms fun t => keep t && other t := by
  refine ⟨fun e => ?_, fun other => ⟨?_, filterTerms_filterTerms keep other q⟩⟩
  · simp only [run_verdict]
    refine ⟨eval_filterTerms_iff, ?_⟩
    rintro ⟨qs, rfl⟩
    exact eval_anyOf_filter_iff
  · rw [filterTerms_filterTerms, filterTerms_filterTerms]
    simp only [Bool.and_comm]

/-- The terms on accounts of a conjunction and of a choice, with terms that a posting does not
match. -/
theorem verdict_filterTerms_of_accounts :
    ∃ (search : String → String → Bool) (qs : List Query) (e : Entity),
      qs = [test (.account "food"), complement (test (.account "cash")), test (.real false)] ∧
        e = .posting ⟨⟨"food", false, .regular, none⟩, none⟩ ∧
        (∀ rs, allOf qs ≠ anyOf rs) ∧ (∃ rs, anyOf qs = anyOf rs) ∧
        Id.run (e.verdict search (allOf qs)) = false ∧
        (Id.run (e.verdict search (allOf qs)) = true ↔
          Id.run (e.verdict search ((allOf qs).filterTerms isAccount)) = true ∧
            Id.run (e.verdict search ((allOf qs).filterTerms fun t => !isAccount t)) = true) ∧
        Id.run (e.verdict search (anyOf qs)) = true ∧
        (Id.run (e.verdict search (anyOf qs)) = true ↔
          Id.run (e.verdict search ((anyOf qs).filterTerms isAccount)) = true ∨
            Id.run (e.verdict search ((anyOf qs).filterTerms fun t => !isAccount t)) = true) := by
  refine ⟨fun pattern text => pattern == text, _, _, rfl, rfl, nofun, ⟨_, rfl⟩, rfl, ?_, rfl, ?_⟩
  · exact ((verdict_filterTerms _ isAccount _).1 _).1 nofun
  · exact ((verdict_filterTerms _ isAccount _).1 _).2 ⟨_, rfl⟩

end JournalSearch.Query
