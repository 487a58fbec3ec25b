import JournalSearch.Proofs.Expression.Meaning
import JournalSearch.Proofs.Query.Joining
import Mathlib.Tactic.Common

/-!
The tree that is found for an expression, read off its terms. Date tests with a bound come first,
then the choice of accounts, then the choice of descriptions, then what else is demanded. A choice
without terms is dropped by the first pass, and so is a test for the open span; after it all that is
left is simplified.
-/
namespace JournalSearch.Expression

open Outcome Query

def components (qs : List Query) : List Query :=
  anyOf (qs.filter isAccount) :: anyOf (qs.filter isDescription) ::
    qs.filter fun q => !(q.isAccount || q.isDescription)

theorem combine_eq_allOf (qs : List Query) : combine qs = allOf (components qs) := rfl

/-- The terms that are tests for dates within a span with a bound. -/
def boundedDates (qs : List Query) : List Query :=
  qs.filter fun q => q.isDate && q ≠ .test (.date .unbounded)

def otherTerms (qs : List Query) : List Query :=
  qs.filter fun q => !(q.isAccount || q.isDescription || q.isDate || q = .everything)

/-- What has to hold beside the tests for dates: one query for all accounts, one for all
descriptions, and the other terms. -/
def undated (qs : List Query) : List Query :=
  (choose? (qs.filter isAccount)).toList ++ (choose? (qs.filter isDescription)).toList
    ++ otherTerms qs

/-- What is found for terms. One that matches nothing leaves nothing. -/
def outline (qs : List Query) : Query :=
  if .nothing ∈ qs then .nothing else conjoin (boundedDates qs ++ undated qs)

theorem reduce_of_isSingle {q : Query} (hq : q.IsSingle) :
    q.reduce = if q = .test (.date .unbounded) then .everything else q := by
  have hstep := reduces_reduceWith simplify q
  rw [reduce]
  generalize reduceWith simplify q = reduced at hstep ⊢
  cases hstep with
  | keep _ _ _ hopen => rw [if_neg hopen]
  | openDate => rw [if_pos rfl]
  | _ => exact hq.elim

theorem normal_reduce_of_isSingle {q : Query} (hq : q.IsSingle) : Normal q.reduce := by
  rw [reduce_of_isSingle hq]
  split_ifs with hopen
  · exact .everything
  · cases q with
    | everything => exact .everything
    | nothing => exact .nothing
    | complement q => exact .complement q
    | test t => exact .test t fun ht => hopen (congrArg _ ht)
    | anyOf => exact hq.elim
    | allOf => exact hq.elim

/-- Of terms that join no others, the first pass leaves what demands something. -/
theorem filter_map_reduce {qs : List Query} (hqs : ∀ q ∈ qs, q.IsSingle) :
    (qs.map reduce).filter (· ≠ .everything) =
      qs.filter fun q => q ≠ .everything && q ≠ .test (.date .unbounded) := by
  induction qs with
  | nil => rfl
  | cons q qs ih =>
    obtain ⟨hq, hrest⟩ := List.forall_mem_cons.mp hqs
    rw [List.map_cons, List.filter_cons, List.filter_cons, ih hrest, reduce_of_isSingle hq]
    by_cases hopen : q = .test (.date .unbounded)
    · simp [hopen]
    · simp [hopen]

theorem settled_filter {kind : Query → Bool} (hkind : ∀ q, kind q = true → Normal q)
    (heverything : kind .everything = false) (hnothing : kind .nothing = false) (qs : List Query) :
    AreSettled (qs.filter kind) := by
  refine ⟨fun q hq => hkind q (List.mem_filter.mp hq).2, ?_, ?_⟩
  · simp [heverything]
  · simp [hnothing]

theorem settled_accounts (qs : List Query) : AreSettled (qs.filter isAccount) := by
  refine settled_filter (fun q hq => ?_) rfl rfl qs
  obtain ⟨pattern, rfl⟩ := isAccount_iff.mp hq
  exact .test _ (by simp)

theorem settled_descriptions (qs : List Query) : AreSettled (qs.filter isDescription) := by
  refine settled_filter (fun q hq => ?_) rfl rfl qs
  obtain ⟨pattern, rfl⟩ := isDescription_iff.mp hq
  exact .test _ (by simp)

theorem filter_reduce_anyOf {qs : List Query} (h : AreSettled qs) :
    [(anyOf qs).reduce].filter (· ≠ .everything) = (choose? qs).toList := by
  rw [reduce_anyOf_of_settled h]
  cases hchoice : choose? qs with
  | none => rfl
  | some q =>
    have hq : q ≠ .everything := fun heq => choose?_ne_everything h (heq ▸ hchoice)
    simp [hq]

theorem isDate_of_mem_boundedDates {q : Query} {qs : List Query} (hq : q ∈ boundedDates qs) :
    q.isDate = true := by
  have hkind := (List.mem_filter.mp hq).2
  exact (Bool.and_eq_true_iff.mp hkind).1

theorem mem_undated_iff {q : Query} {qs : List Query} :
    q ∈ undated qs ↔ choose? (qs.filter isAccount) = some q ∨
      choose? (qs.filter isDescription) = some q ∨ q ∈ otherTerms qs := by
  simp only [undated, List.mem_append, Option.mem_toList, or_assoc]

theorem isDate_of_mem_undated {q : Query} {qs : List Query} (hq : q ∈ undated qs) :
    q.isDate = false := by
  rcases mem_undated_iff.mp hq with haccount | hdescription | hother
  · rcases mem_or_eq_of_choose? haccount with hmem | rfl
    · obtain ⟨pattern, rfl⟩ := isAccount_iff.mp (List.mem_filter.mp hmem).2
      rfl
    · rfl
  · rcases mem_or_eq_of_choose? hdescription with hmem | rfl
    · obtain ⟨pattern, rfl⟩ := isDescription_iff.mp (List.mem_filter.mp hmem).2
      rfl
    · rfl
  · have hkind := (List.mem_filter.mp hother).2
    cases hdate : q.isDate with
    | true => simp [hdate] at hkind
    | false => rfl

theorem datesLead_outline (qs : List Query) : DatesLead (boundedDates qs ++ undated qs) := by
  rw [DatesLead, List.pairwise_append]
  refine ⟨?_, ?_, ?_⟩
  · apply List.pairwise_of_forall_mem_list
    intro q hq r _ _
    exact isDate_of_mem_boundedDates hq
  · apply List.pairwise_of_forall_mem_list
    intro q _ r hr hdate
    rw [isDate_of_mem_undated hr] at hdate
    cases hdate
  · intro q hq r _ _
    exact isDate_of_mem_boundedDates hq

section
variable {qs : List Query} (hqs : ∀ q ∈ qs, q.IsSingle)
include hqs

theorem isSingle_of_mem_filter {keep : Query → Bool} : ∀ q ∈ qs.filter keep, q.IsSingle :=
  fun q hq => hqs q (List.mem_of_mem_filter hq)

omit hqs in
/-- The choices and the terms beside them, as the first pass orders them. -/
theorem datesToFront_components :
    datesToFront ((components qs).filter (· ≠ .everything)) =
      qs.filter isDate ++ ([anyOf (qs.filter isAccount), anyOf (qs.filter isDescription)] ++
        otherTerms qs) := by
  have hdates : qs.filter (fun q => q.isDate && (q ≠ .everything &&
      !(q.isAccount || q.isDescription))) = qs.filter isDate := by
    apply List.filter_congr
    intro q _
    cases q with
    | test t => cases t <;> simp [isDate, isAccount, isDescription]
    | _ => rfl
  have hothers : qs.filter (fun q => !q.isDate && (q ≠ .everything &&
      !(q.isAccount || q.isDescription))) = otherTerms qs := by
    apply List.filter_congr
    intro q _
    cases q with
    | test t => cases t <;> simp [isDate, isAccount, isDescription]
    | _ => simp [isDate, isAccount, isDescription]
  rw [← hdates, ← hothers]
  simp [components, datesToFront, List.filter_filter, isDate]

/-- What the first pass leaves of the terms put together, apart from what demands nothing. -/
theorem filter_map_reduce_components :
    ((datesToFront ((components qs).filter (· ≠ .everything))).map reduce).filter
        (· ≠ .everything) = boundedDates qs ++ undated qs := by
  have hchoices : ([anyOf (qs.filter isAccount), anyOf (qs.filter isDescription)].map
      reduce).filter (· ≠ .everything) =
        (choose? (qs.filter isAccount)).toList ++ (choose? (qs.filter isDescription)).toList := by
    rw [← filter_reduce_anyOf (settled_accounts qs), ← filter_reduce_anyOf (settled_descriptions qs),
      ← List.filter_append]
    rfl
  have hdates : (qs.filter isDate).filter (fun q =>
      q ≠ .everything && q ≠ .test (.date .unbounded)) = boundedDates qs := by
    rw [List.filter_filter]
    apply List.filter_congr
    intro q _
    cases q with
    | test t => cases t <;> simp [isDate]
    | _ => simp [isDate]
  have hothers : (otherTerms qs).filter (fun q =>
      q ≠ .everything && q ≠ .test (.date .unbounded)) = otherTerms qs := by
    rw [List.filter_eq_self]
    intro q hq
    have hkind := (List.mem_filter.mp hq).2
    cases q with
    | test t => cases t <;> simp [isDate, isAccount, isDescription] at hkind ⊢
    | _ => simp at hkind ⊢
  have hsingle : ∀ q ∈ otherTerms qs, q.IsSingle := isSingle_of_mem_filter hqs
  rw [datesToFront_components, List.map_append, List.filter_append, List.map_append,
    List.filter_append, hchoices, filter_map_reduce (isSingle_of_mem_filter hqs),
    filter_map_reduce hsingle, hdates, hothers]
  rfl

theorem normal_reduce_of_mem_components {q : Query} (hq : q ∈ components qs) :
    Normal q.reduce := by
  have hchoice : ∀ rs, AreSettled rs → Normal (anyOf rs).reduce := by
    intro rs hrs
    rw [reduce_anyOf_of_settled hrs]
    cases hfound : choose? rs with
    | none => exact .everything
    | some r => exact normal_choose? hrs r hfound
  simp only [components, List.mem_cons] at hq
  rcases hq with rfl | rfl | hq
  · exact hchoice _ (settled_accounts qs)
  · exact hchoice _ (settled_descriptions qs)
  · exact normal_reduce_of_isSingle (isSingle_of_mem_filter hqs q hq)

theorem reduce_ne_nothing_of_mem_components (hnothing : .nothing ∉ qs) {q : Query}
    (hq : q ∈ components qs) : q.reduce ≠ .nothing := by
  have hchoice : ∀ rs, AreSettled rs → (anyOf rs).reduce ≠ .nothing := by
    intro rs hrs hreduce
    rw [reduce_anyOf_of_settled hrs] at hreduce
    cases hfound : choose? rs with
    | none =>
      rw [hfound] at hreduce
      cases hreduce
    | some r =>
      rw [hfound, Option.getD_some] at hreduce
      exact choose?_ne_nothing hrs (hreduce ▸ hfound)
  simp only [components, List.mem_cons] at hq
  rcases hq with rfl | rfl | hq
  · exact hchoice _ (settled_accounts qs)
  · exact hchoice _ (settled_descriptions qs)
  · have hmem : q ∈ qs := List.mem_of_mem_filter hq
    have hne : q ≠ .nothing := ne_of_mem_of_not_mem hmem hnothing
    rw [reduce_of_isSingle (hqs q hmem)]
    split_ifs
    · simp
    · exact hne

omit hqs in
theorem nothing_mem_components_iff : .nothing ∈ components qs ↔ .nothing ∈ qs := by
  simp [components, isAccount, isDescription]

/-- The components are all the same only if there are no terms. -/
theorem eq_nil_of_components_same (h : ∀ r ∈ components qs, r = anyOf (qs.filter isAccount)) :
    qs = [] := by
  rw [components, List.forall_mem_cons, List.forall_mem_cons] at h
  obtain ⟨-, hchoices, hothers⟩ := h
  injection hchoices with hchoices
  rw [List.eq_nil_iff_forall_not_mem]
  intro q hq
  have hkinds : ∀ r : Query, r.isAccount = true → r.isDescription = false := by
    intro r hr
    obtain ⟨pattern, rfl⟩ := isAccount_iff.mp hr
    rfl
  -- A test of accounts or descriptions would be in both choices.
  have haccount : q.isAccount = false := by
    by_contra hkind
    rw [Bool.not_eq_false] at hkind
    have hmem : q ∈ qs.filter isDescription := hchoices ▸ List.mem_filter.mpr ⟨hq, hkind⟩
    simp [hkinds q hkind] at hmem
  have hdescription : q.isDescription = false := by
    by_contra hkind
    rw [Bool.not_eq_false] at hkind
    have hmem : q ∈ qs.filter isAccount := hchoices ▸ List.mem_filter.mpr ⟨hq, hkind⟩
    simp [haccount] at hmem
  have hother := hothers q (List.mem_filter.mpr ⟨hq, by simp [haccount, hdescription]⟩)
  have hsingle := hqs q hq
  rw [hother] at hsingle
  exact hsingle

/-- Terms put together are simplified to their outline. -/
theorem simplify_combine : (combine qs).simplify = outline qs := by
  have hterms : (combine qs).reduce = joinAll ((components qs).map fun q => (q, q.reduce)) := by
    rw [combine_eq_allOf]
    exact reduceWith_allOf simplify (components qs)
  rw [components, joinAll_map, ← components] at hterms
  rw [← simplify_reduce, hterms]
  split_ifs with hsame hnothing hdates
  · obtain rfl := eq_nil_of_components_same hqs (List.forall_mem_cons.mpr ⟨rfl, hsame⟩)
    exact simplify_of_normal .everything
  · rw [outline, if_pos (nothing_mem_components_iff.mp hnothing)]
    exact simplify_of_normal .nothing
  · cases hdates _ List.mem_cons_self
  · rw [nothing_mem_components_iff] at hnothing
    rw [outline, if_neg hnothing, simplify_allOf_of_normal, filter_map_reduce_components hqs,
      (datesToFront_eq_self_iff _).mpr (datesLead_outline qs)]
    · rw [List.forall_mem_map]
      intro q hq
      exact normal_reduce_of_mem_components hqs (mem_datesToFront_filter.mp hq).1
    · intro hmem
      obtain ⟨q, hq, hreduce⟩ := List.mem_map.mp hmem
      exact reduce_ne_nothing_of_mem_components hqs hnothing (mem_datesToFront_filter.mp hq).1
        hreduce

end

variable {dating : Dating} {labels : List String} {text : String} {found : Search}

theorem exists_outline_of_parse (h : parse dating labels text = .ok found) :
    ∃ terms, readTerms dating labels text = .ok terms ∧
      found = ⟨outline (terms.filterMap Term.query?), terms.filterMap Term.option?⟩ := by
  obtain ⟨terms, hterms, rfl⟩ := parse_eq_ok_iff.mp h
  refine ⟨terms, hterms, ?_⟩
  rw [simplify_combine (isSingle_of_readTerms hterms)]

theorem parse_of_readTerms {terms : List Term} (h : readTerms dating labels text = .ok terms) :
    parse dating labels text =
      .ok ⟨outline (terms.filterMap Term.query?), terms.filterMap Term.option?⟩ := by
  rw [← simplify_combine (isSingle_of_readTerms h)]
  exact parse_eq_ok_iff.mpr ⟨terms, h, rfl⟩

/-- What is found for an expression is the outline of the queries, and the options, that its tokens
are read as. -/
theorem parse_eq_ok_iff_outline :
    parse dating labels text = .ok found ↔
      ∃ terms : List Term,
        List.Forall₂ (fun token term => readTerm dating token.value = .ok term)
          (tokens labels text) terms ∧
        found = ⟨outline (terms.filterMap Term.query?), terms.filterMap Term.option?⟩ := by
  constructor
  · intro h
    obtain ⟨terms, hterms, hfound⟩ := exists_outline_of_parse h
    exact ⟨terms, readTerms_eq_ok_iff.mp hterms, hfound⟩
  · rintro ⟨terms, hterms, rfl⟩
    exact parse_of_readTerms (readTerms_eq_ok_iff.mpr hterms)

/-- Two accounts are a choice, equal descriptions are one, and the depth comes last. -/
example :
    outline [.test (.depth 2), .test (.account "a"), .test (.description "x"), .everything,
        .test (.account "b"), .test (.description "x")] =
      .allOf [.anyOf [.test (.account "a"), .test (.account "b")], .test (.description "x"),
        .test (.depth 2)] := by
  decide

end JournalSearch.Expression
