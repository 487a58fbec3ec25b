import JournalSearch.Proofs.Expression.Labels
import JournalSearch.Proofs.Query.Leniency
import Mathlib.Data.List.Forall2
import Mathlib.Tactic.Common

/-!
What a search expression asks for. Its tokens are read as terms, one by one and in order, and a
term is an option or a query that joins no others. The query found for the expression is matched
by what meets one of the terms on accounts, if there are any, one of the terms on descriptions, if
there are any, and all other terms. Only a test for a date within the open span demands nothing,
even of what has no date.
-/
namespace JournalSearch

namespace Query

def IsSingle : Query → Prop
  | anyOf _ | allOf _ => False
  | everything | nothing | complement _ | test _ => True

/-- If there are queries of the kind, one of them is accepted. -/
def MeetsChoice (accepts kind : Query → Bool) (qs : List Query) : Prop :=
  (∀ q ∈ qs, kind q = false) ∨ ∃ q ∈ qs, kind q = true ∧ accepts q = true

/-- What the terms of an expression ask for: one on accounts, one on descriptions, and all others
but a test for a date within the open span. -/
structure MeetsTerms (accepts : Query → Bool) (qs : List Query) : Prop where
  account : MeetsChoice accepts isAccount qs
  description : MeetsChoice accepts isDescription qs
  others : ∀ q ∈ qs, isAccount q = false → isDescription q = false →
    q = test (.date .unbounded) ∨ accepts q = true

variable {rule : Test → Bool}

theorem evalLeniently_single_iff {q : Query} (hq : q.IsSingle) :
    evalLeniently rule q = true ↔ q = test (.date .unbounded) ∨ eval rule q = true := by
  cases q with
  | anyOf qs => exact hq.elim
  | allOf qs => exact hq.elim
  | test t => simp [evalLeniently, Test.passesLeniently]
  | complement q => simp [evalLeniently]
  | everything => simp [evalLeniently, eval, holds]
  | nothing => simp [evalLeniently, eval, holds]

/-- The choice of all terms of one kind, which is lenient if there are none. -/
theorem evalLeniently_filter_iff {kind : Query → Bool}
    (hkind : kind (test (.date .unbounded)) = false) {qs : List Query}
    (hqs : ∀ q ∈ qs, q.IsSingle) :
    evalLeniently rule (anyOf (qs.filter kind)) = true ↔ MeetsChoice (eval rule) kind qs := by
  have hterm : ∀ q ∈ qs, kind q = true →
      (evalLeniently rule q = true ↔ eval rule q = true) := by
    intro q hq hk
    have hopen : q ≠ test (.date .unbounded) := by
      rintro rfl
      simp [hkind] at hk
    rw [evalLeniently_single_iff (hqs q hq)]
    simp [hopen]
  rw [evalLeniently_anyOf_iff, MeetsChoice]
  apply or_congr
  · simp
  · constructor
    · rintro ⟨q, hq, hholds⟩
      obtain ⟨hmem, hk⟩ := List.mem_filter.mp hq
      exact ⟨q, hmem, hk, (hterm q hmem hk).mp hholds⟩
    · rintro ⟨q, hmem, hk, hholds⟩
      exact ⟨q, List.mem_filter.mpr ⟨hmem, hk⟩, (hterm q hmem hk).mpr hholds⟩

end Query

namespace Expression

open Calendar (Span)
open Outcome Query

/-- The lenient reading of terms put together. -/
theorem evalLeniently_combine_iff {rule : Test → Bool} {qs : List Query}
    (hqs : ∀ q ∈ qs, q.IsSingle) :
    evalLeniently rule (combine qs) = true ↔ MeetsTerms (eval rule) qs := by
  rw [combine, evalLeniently_allOf_iff, List.forall_mem_append, List.forall_mem_cons,
    List.forall_mem_singleton, evalLeniently_filter_iff rfl hqs, evalLeniently_filter_iff rfl hqs]
  constructor
  · rintro ⟨⟨haccount, hdescription⟩, hothers⟩
    refine ⟨haccount, hdescription, fun q hq ha hd => ?_⟩
    have hmem : q ∈ qs.filter fun q => !(q.isAccount || q.isDescription) := by
      simpa [ha, hd] using hq
    exact (evalLeniently_single_iff (hqs q hq)).mp (hothers q hmem)
  · rintro ⟨haccount, hdescription, hothers⟩
    refine ⟨⟨haccount, hdescription⟩, fun q hq => ?_⟩
    obtain ⟨hmem, hkind⟩ := List.mem_filter.mp hq
    simp only [Bool.not_eq_true', Bool.or_eq_false_iff] at hkind
    apply (evalLeniently_single_iff (hqs q hmem)).mpr
    exact hothers q hmem hkind.1 hkind.2

def Term.IsSingle : Term → Prop
  | query q => q.IsSingle
  | option _ => True

theorem isSingle_readSpan {dating : Dating} {test : Span → Test} {text : String} {q : Query}
    (h : readSpan dating test text = .ok q) : q.IsSingle := by
  unfold readSpan at h
  split at h
  · cases h
    trivial
  · cases h
  · cases h
    trivial

theorem isSingle_readField {dating : Dating} {field : Field} {text : String} {term : Term}
    (h : readField dating field text = .ok term) : term.IsSingle := by
  cases field with
  | date | effectiveDate =>
    obtain ⟨q, hq, hterm⟩ := bind_eq_ok_iff.mp h
    cases hterm
    exact isSingle_readSpan hq
  | depth =>
    obtain ⟨limit, -, hterm⟩ := bind_eq_ok_iff.mp h
    cases hterm
    trivial
  | _ =>
    cases h
    trivial

theorem isSingle_readPositive {dating : Dating} {text : List Char} {term : Term}
    (h : readPositive dating text = .ok term) : term.IsSingle := by
  unfold readPositive at h
  split at h
  · exact isSingle_readField h
  · split at h
    · cases h
      trivial
    · cases h
      trivial

theorem isSingle_complements (count : Nat) {q : Query} (hq : q.IsSingle) :
    (complements count q).IsSingle := by
  cases count with
  | zero => exact hq
  | succ count => trivial

theorem isSingle_negate (count : Nat) {term : Term} (h : term.IsSingle) :
    (term.negate count).IsSingle := by
  cases term with
  | query q =>
    rw [Term.negate]
    exact isSingle_complements count h
  | option o =>
    cases count with
    | zero => trivial
    | succ count =>
      rw [Term.negate]
      exact isSingle_complements count trivial

theorem isSingle_readTerm {dating : Dating} {text : String} {term : Term}
    (h : readTerm dating text = .ok term) : term.IsSingle := by
  obtain ⟨positive, hpositive, hterm⟩ := bind_eq_ok_iff.mp h
  cases hterm
  exact isSingle_negate _ (isSingle_readPositive hpositive)

theorem readTerms_eq_ok_iff {dating : Dating} {labels : List String} {text : String}
    {terms : List Term} :
    readTerms dating labels text = .ok terms ↔
      List.Forall₂ (fun token term => readTerm dating token.value = .ok term)
        (tokens labels text) terms :=
  mapM_eq_ok_iff _ _ _

theorem isSingle_of_readTerms {dating : Dating} {labels : List String} {text : String}
    {terms : List Term} (h : readTerms dating labels text = .ok terms) :
    ∀ q ∈ terms.filterMap Term.query?, q.IsSingle := by
  intro q hq
  obtain ⟨term, hterm, hquery⟩ := List.mem_filterMap.mp hq
  obtain ⟨token, -, hread⟩ := exists_mem_of_mem_mapM h hterm
  have hsingle := isSingle_readTerm hread
  cases term with
  | query r =>
    cases hquery
    exact hsingle
  | option o => cases hquery

theorem parse_eq_ok_iff {dating : Dating} {labels : List String} {text : String}
    {found : Search} :
    parse dating labels text = .ok found ↔ ∃ terms, readTerms dating labels text = .ok terms ∧
      found = ⟨(combine (terms.filterMap Term.query?)).simplify,
        terms.filterMap Term.option?⟩ := by
  simp only [parse, bind_eq_ok_iff, pure_eq_ok_iff, eq_comm (b := found)]

/-- What an expression sets and asks for, by the terms that its tokens are read as. -/
theorem verdict_parse {dating : Dating} {labels : List String} {text : String} {found : Search}
    (h : parse dating labels text = .ok found) :
    ∃ terms : List Term,
      List.Forall₂ (fun token term => readTerm dating token.value = .ok term)
        (tokens labels text) terms ∧
      found.options = terms.filterMap Term.option? ∧
      ∀ (search : String → String → Bool) (e : Entity),
        Id.run (e.verdict search found.query) = true ↔
          MeetsTerms (fun q => Id.run (e.verdict search q)) (terms.filterMap Term.query?) := by
  obtain ⟨terms, hterms, rfl⟩ := parse_eq_ok_iff.mp h
  refine ⟨terms, readTerms_eq_ok_iff.mp hterms, rfl, fun search e => ?_⟩
  simp only [run_verdict]
  rw [eval_simplify (joinsSpans_passes search e)]
  exact evalLeniently_combine_iff (isSingle_of_readTerms hterms)

theorem labels_longest_first :
    (Field.labels.mergeSort fun a b => b.length ≤ a.length) =
      ["inacctonly:", "inacct:", "status:", "edate:", "empty:", "depth:", "desc:", "acct:",
        "date:", "real:"] := by
  simp +decide [Field.labels, Field.all, Field.label, List.mergeSort,
    List.MergeSort.Internal.splitInTwo]

theorem heads_labels :
    heads Field.labels =
      ["not:inacctonly:", "not:inacct:", "not:status:", "not:edate:", "not:empty:", "not:depth:",
        "not:desc:", "not:acct:", "not:date:", "not:real:", "not:", "inacctonly:", "inacct:",
        "status:", "edate:", "empty:", "depth:", "desc:", "acct:", "date:",
        "real:"].map String.toList := by
  simp [heads, labels_longest_first, negation]

/-- An account, a quoted description, an excluded status and an option. -/
theorem verdict_parse_coffee_shop :
    ∃ (dating : Dating) (text : String) (found : Search),
      dating = .ofReference ⟨2012, 5, 16, by decide, by decide, by decide⟩ ∧
      text = "cash desc:'coffee shop' not:status:1 inacct:a" ∧
      parse dating Field.labels text = .ok found ∧
      ∃ terms : List Term,
        List.Forall₂ (fun token term => readTerm dating token.value = .ok term)
          (tokens Field.labels text) terms ∧
        found.options = terms.filterMap Term.option? ∧
        ∀ (search : String → String → Bool) (e : Entity),
          Id.run (e.verdict search found.query) = true ↔
            MeetsTerms (fun q => Id.run (e.verdict search q)) (terms.filterMap Term.query?) := by
  let dating : Dating := .ofReference ⟨2012, 5, 16, by decide, by decide, by decide⟩
  have htokens : tokens Field.labels "cash desc:'coffee shop' not:status:1 inacct:a" =
      [⟨.plain, "cash", 0⟩, ⟨.labelledQuoted, Field.description.label ++ "coffee shop", 5⟩,
        ⟨.plain, negation ++ (Field.cleared.label ++ "1"), 24⟩,
        ⟨.plain, Field.focus.label ++ "a", 37⟩] := by
    rw [tokens, heads_labels]
    cbv
  have hcleared : readTerm dating (Field.cleared.label ++ "1") =
      .ok (.query (.test (.cleared true))) := readTerm_label_eq_ok_iff.mpr rfl
  have hread : readTerms dating Field.labels "cash desc:'coffee shop' not:status:1 inacct:a" =
      .ok [.query (.test (.account "cash")), .query (.test (.description "coffee shop")),
        .query (.complement (.test (.cleared true))), .option (.withSubaccounts "a")] := by
    rw [readTerms_eq_ok_iff, htokens]
    exact .cons (readTerm_of_isPrefixOf?_eq_none rfl) (.cons (readTerm_label_eq_ok_iff.mpr rfl)
      (.cons (readTerm_negation hcleared) (.cons (readTerm_label_eq_ok_iff.mpr rfl) .nil)))
  have hparse := parse_eq_ok_iff.mpr ⟨_, hread, rfl⟩
  exact ⟨dating, _, _, rfl, rfl, hparse, verdict_parse hparse⟩

end Expression

end JournalSearch
