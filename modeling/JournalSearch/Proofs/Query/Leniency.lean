import JournalSearch.Proofs.Query.NormalForm
import JournalSearch.Proofs.Query.Verdict

/-!
What simplification does to verdicts. It takes a choice without terms, and a test for a date
within the open span, for demands that nothing fails. The lenient reading of a query differs from
the verdict in these two places, and under complements it is the verdict. A pass keeps the lenient
reading, and of a simplified query the two agree, so the verdict on the simplified query is the
lenient reading of the query itself.
-/
namespace JournalSearch

open Calendar (Span Date)

def Test.passesLeniently (rule : Test → Bool) (t : Test) : Bool := t = .date .unbounded || rule t

namespace Query

mutual

/-- The lenient reading: outside complements, a choice without terms and a test for a date within
the open span hold. -/
def evalLeniently (rule : Test → Bool) : Query → Bool
  | everything => true
  | nothing => false
  | complement q => !eval rule q
  | anyOf qs => qs.isEmpty || anyLeniently rule qs
  | allOf qs => allLeniently rule qs
  | test t => t.passesLeniently rule

def anyLeniently (rule : Test → Bool) : List Query → Bool
  | [] => false
  | q :: qs => evalLeniently rule q || anyLeniently rule qs

def allLeniently (rule : Test → Bool) : List Query → Bool
  | [] => true
  | q :: qs => evalLeniently rule q && allLeniently rule qs

end

def JoinsSpans (rule : Test → Bool) : Prop :=
  ∀ a b : Span, (Test.date (a.inter b)).passesLeniently rule =
    ((Test.date a).passesLeniently rule && (Test.date b).passesLeniently rule)

section
variable {rule : Test → Bool}

theorem evalLeniently_anyOf_iff (qs : List Query) :
    evalLeniently rule (anyOf qs) = true ↔ qs = [] ∨ ∃ q ∈ qs, evalLeniently rule q = true := by
  have hany : anyLeniently rule qs = true ↔ ∃ q ∈ qs, evalLeniently rule q = true := by
    induction qs with
    | nil => simp [anyLeniently]
    | cons q qs ih => simp [anyLeniently, ih]
  rw [evalLeniently, Bool.or_eq_true, List.isEmpty_iff, hany]

theorem evalLeniently_allOf_iff (qs : List Query) :
    evalLeniently rule (allOf qs) = true ↔ ∀ q ∈ qs, evalLeniently rule q = true := by
  rw [evalLeniently]
  induction qs with
  | nil => simp [allLeniently]
  | cons q qs ih => simp [allLeniently, ih]

/-- Tests for dates are read as one test for the intersection. -/
theorem passesLeniently_interAll (hrule : JoinsSpans rule) (spans : List Span) :
    (Test.date (.interAll spans)).passesLeniently rule =
      spans.all fun s => (Test.date s).passesLeniently rule :=
  Span.interAll_eq_all (fun s => (Test.date s).passesLeniently rule)
    (by simp [Test.passesLeniently]) hrule spans

theorem evalLeniently_termsOfAny {f : Query → Query} {qs : List Query} (hqs : Varied qs)
    (ih : ∀ q ∈ qs, evalLeniently rule (f q) = evalLeniently rule q) :
    evalLeniently rule (anyOf ((qs.filter (· ≠ nothing)).map f)) =
      evalLeniently rule (anyOf qs) := by
  obtain ⟨q, hq, hne⟩ := hqs.exists_ne nothing
  have hkept : (qs.filter (· ≠ nothing)).map f ≠ [] := by
    refine List.ne_nil_of_mem (List.mem_map_of_mem (a := q) ?_)
    simpa using ⟨hq, hne⟩
  rw [Bool.eq_iff_iff, evalLeniently_anyOf_iff, evalLeniently_anyOf_iff]
  simp only [hkept, hqs.ne_nil, false_or]
  constructor
  · rintro ⟨r, hr, hholds⟩
    obtain ⟨q, hq, rfl⟩ := List.mem_map.mp hr
    have hmem := List.mem_of_mem_filter hq
    exact ⟨q, hmem, (ih q hmem).symm.trans hholds⟩
  · rintro ⟨q, hq, hholds⟩
    have hne : q ≠ nothing := by
      rintro rfl
      simp [evalLeniently] at hholds
    refine ⟨f q, List.mem_map_of_mem ?_, (ih q hq).trans hholds⟩
    simpa using ⟨hq, hne⟩

theorem evalLeniently_termsOfAll {f : Query → Query} {qs : List Query}
    (ih : ∀ q ∈ qs, evalLeniently rule (f q) = evalLeniently rule q) :
    evalLeniently rule (allOf ((datesToFront (qs.filter (· ≠ everything))).map f)) =
      evalLeniently rule (allOf qs) := by
  rw [Bool.eq_iff_iff, evalLeniently_allOf_iff, evalLeniently_allOf_iff, List.forall_mem_map]
  constructor
  · intro h q hq
    by_cases hplain : q = everything
    · rw [hplain, evalLeniently]
    · rw [← ih q hq]
      exact h q (mem_datesToFront_filter.mpr ⟨hq, hplain⟩)
  · intro h q hq
    have hmem := (mem_datesToFront_filter.mp hq).1
    rw [ih q hmem]
    exact h q hmem

/-- A pass keeps the lenient reading. -/
theorem evalLeniently_reduceWith (hrule : JoinsSpans rule) {settle : Query → Query}
    (h : ∀ c, evalLeniently rule (settle c) = evalLeniently rule c) (q : Query) :
    evalLeniently rule (reduceWith settle q) = evalLeniently rule q := by
  induction q with
  | anyOf qs ih =>
    have hstep := reduces_anyOf settle qs
    generalize reduceWith settle (anyOf qs) = reduced at hstep ⊢
    cases hstep with
    | keep => rfl
    | noneOfAny => rfl
    | onlyOfAny q =>
      rw [h, Bool.eq_iff_iff, evalLeniently_anyOf_iff]
      simp
    | oneOfAny _ q _ hq hsame =>
      rw [ih q hq, Bool.eq_iff_iff, evalLeniently_anyOf_iff]
      constructor
      · exact fun hholds => Or.inr ⟨q, hq, hholds⟩
      · rintro (rfl | ⟨r, hr, hholds⟩)
        · simp at hq
        · rwa [hsame r hr] at hholds
    | everythingOfAny _ _ hq =>
      symm
      exact (evalLeniently_anyOf_iff qs).mpr (Or.inr ⟨everything, hq, by rw [evalLeniently]⟩)
    | termsOfAny _ hqs => exact evalLeniently_termsOfAny hqs ih
  | allOf qs ih =>
    have hstep := reduces_allOf settle qs
    generalize reduceWith settle (allOf qs) = reduced at hstep ⊢
    cases hstep with
    | keep => rfl
    | noneOfAll => rfl
    | oneOfAll _ q hq hsame =>
      rw [ih q hq, Bool.eq_iff_iff, evalLeniently_allOf_iff]
      constructor
      · intro hholds r hr
        rwa [hsame r hr]
      · exact fun hall => hall q hq
    | nothingOfAll _ _ hq =>
      rw [Bool.eq_iff_iff, evalLeniently_allOf_iff]
      constructor
      · intro hfalse
        simp [evalLeniently] at hfalse
      · exact fun hall => hall nothing hq
    | datesOfAll spans =>
      rw [Bool.eq_iff_iff, evalLeniently_allOf_iff, evalLeniently, passesLeniently_interAll hrule,
        List.all_eq_true, List.forall_mem_map]
      simp only [evalLeniently]
    | termsOfAll => exact evalLeniently_termsOfAll ih
  | test t =>
    have hstep := reduces_reduceWith settle (test t)
    generalize reduceWith settle (test t) = reduced at hstep ⊢
    cases hstep with
    | keep => rfl
    | openDate => simp [evalLeniently, Test.passesLeniently]
  | _ => rfl

theorem evalLeniently_simplify (hrule : JoinsSpans rule) (q : Query) :
    evalLeniently rule q.simplify = evalLeniently rule q := by
  apply rel_simplify (R := fun q r => evalLeniently rule r = evalLeniently rule q)
  · exact fun q => rfl
  · exact fun hab hbc => hbc.trans hab
  · exact fun settle hsettle q => evalLeniently_reduceWith hrule hsettle q

/-- Without the two exceptions the lenient reading is the verdict. -/
theorem evalLeniently_eq_eval (q : Query) (hempty : ¬Exposes q (anyOf []))
    (hopen : Exposes q (test (.date .unbounded)) → rule (.date .unbounded) = true) :
    evalLeniently rule q = eval rule q := by
  induction q with
  | anyOf qs ih =>
    have hqs : qs ≠ [] := by
      rintro rfl
      exact hempty (.self _)
    have hterms : ∀ q ∈ qs, evalLeniently rule q = eval rule q := fun q hq =>
      ih q hq (fun h => hempty (.ofAnyOf hq h)) (fun h => hopen (.ofAnyOf hq h))
    rw [Bool.eq_iff_iff, evalLeniently_anyOf_iff, eval_anyOf_iff]
    simp only [hqs, false_or]
    constructor
    · rintro ⟨q, hq, hholds⟩
      exact ⟨q, hq, (hterms q hq).symm.trans hholds⟩
    · rintro ⟨q, hq, hholds⟩
      exact ⟨q, hq, (hterms q hq).trans hholds⟩
  | allOf qs ih =>
    have hterms : ∀ q ∈ qs, evalLeniently rule q = eval rule q := fun q hq =>
      ih q hq (fun h => hempty (.ofAllOf hq h)) (fun h => hopen (.ofAllOf hq h))
    rw [Bool.eq_iff_iff, evalLeniently_allOf_iff, eval_allOf_iff]
    constructor
    · intro hall q hq
      rw [← hterms q hq]
      exact hall q hq
    · intro hall q hq
      rw [hterms q hq]
      exact hall q hq
  | test t =>
    rw [evalLeniently, Test.passesLeniently, eval_test]
    by_cases heq : t = .date .unbounded
    · subst heq
      simpa using (hopen (.self _)).symm
    · simp [heq]
  | _ => rfl

/-- The verdict on the simplified query is the lenient reading of the query. -/
theorem eval_simplify (hrule : JoinsSpans rule) (q : Query) :
    eval rule q.simplify = evalLeniently rule q := by
  have hnormal := normal_simplify q
  rw [← evalLeniently_simplify hrule q]
  symm
  apply evalLeniently_eq_eval
  · exact fun h => not_normal_anyOf_nil (hnormal.of_exposes h)
  · exact fun h => absurd (hnormal.of_exposes h) not_normal_openDate

/-- A rule that looks whether a day lies within the span needs no exception for the open span. -/
theorem passesLeniently_of_contains {day : Date}
    (hrule : ∀ s : Span, rule (.date s) = s.contains day) (s : Span) :
    (Test.date s).passesLeniently rule = s.contains day := by
  rw [Test.passesLeniently, hrule]
  by_cases hs : s = .unbounded
  · simp [hs]
  · simp [hs]

theorem joinsSpans_of_contains (day : Date)
    (hrule : ∀ s : Span, rule (.date s) = s.contains day) : JoinsSpans rule := by
  intro a b
  simp only [passesLeniently_of_contains hrule]
  exact Span.contains_inter a b day

/-- A rule that passes no test for dates is lenient with the open span only. -/
theorem joinsSpans_of_false (hrule : ∀ s : Span, rule (.date s) = false) : JoinsSpans rule := by
  have hopen : ∀ s : Span, (Test.date s).passesLeniently rule = s.isUnbounded := by
    intro s
    rw [Test.passesLeniently, hrule, Bool.or_false, Bool.eq_iff_iff, Span.isUnbounded_iff]
    simp
  intro a b
  simp only [hopen]
  exact Span.isUnbounded_inter a b

theorem joinsSpans_passes (search : String → String → Bool) (e : Entity) :
    JoinsSpans (e.passes search) := by
  cases e with
  | account name =>
    intro a b
    simp [Test.passesLeniently, Entity.passes, Entity.rule, Test.onAccount]
  | posting p =>
    cases hheading : p.heading with
    | none =>
      apply joinsSpans_of_false
      intro s
      simp [Entity.passes, Entity.rule, Test.onPosting, hheading]
    | some h =>
      apply joinsSpans_of_contains h.date
      intro s
      simp [Entity.passes, Entity.rule, Test.onPosting, hheading]
  | transaction t => exact joinsSpans_of_contains t.heading.date fun s => rfl

theorem passes_openDate (search : String → String → Bool) (e : Entity)
    (he : e.isUnlinked = false) : e.passes search (.date .unbounded) = true := by
  cases e with
  | account name => rfl
  | posting p =>
    cases hheading : p.heading with
    | none => simp [Entity.isUnlinked, hheading] at he
    | some h =>
      simp [Entity.passes, Entity.rule, Test.onPosting, hheading]
  | transaction t => exact Span.contains_unbounded t.heading.date

end

/-- Simplification makes the verdict lenient and changes nothing else. If the query exposes no
choice without terms, all entities but unlinked postings get the verdict of the query itself. -/
theorem verdict_simplify (search : String → String → Bool) (q : Query) :
    (∀ e : Entity, Id.run (e.verdict search q.simplify) = q.evalLeniently (e.passes search)) ∧
      (¬Exposes q (anyOf []) → ∀ e : Entity, e.isUnlinked = false →
        Id.run (e.verdict search q.simplify) = Id.run (e.verdict search q)) := by
  have hlenient : ∀ e : Entity,
      Id.run (e.verdict search q.simplify) = q.evalLeniently (e.passes search) := by
    intro e
    rw [run_verdict]
    exact eval_simplify (joinsSpans_passes search e) q
  refine ⟨hlenient, fun hempty e he => ?_⟩
  rw [hlenient, run_verdict]
  exact evalLeniently_eq_eval q hempty fun _ => passes_openDate search e he

/-- A choice without terms under a complement is not exposed. -/
theorem verdict_simplify_of_complement :
    ¬Exposes (allOf [complement (anyOf []), test (.date .unbounded)]) (anyOf []) ∧
      Entity.isUnlinked (.account "cash") = false ∧
      Id.run (Entity.verdict (fun pattern text => pattern == text)
          (simplify (allOf [complement (anyOf []), test (.date .unbounded)])) (.account "cash")) =
        Id.run (Entity.verdict (fun pattern text => pattern == text)
          (allOf [complement (anyOf []), test (.date .unbounded)]) (.account "cash")) := by
  have hempty : ¬Exposes (allOf [complement (anyOf []), test (.date .unbounded)]) (anyOf []) := by
    simp
  exact ⟨hempty, rfl, (verdict_simplify _ _).2 hempty _ rfl⟩

end Query

end JournalSearch
