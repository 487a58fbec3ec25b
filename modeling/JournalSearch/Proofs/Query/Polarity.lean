import JournalSearch.Proofs.Query.Verdict

/-!
One query under two rules for tests. If the rules agree on the tests that the query mentions, so do
the verdicts. To carry over only that the query holds, less is asked of the tests that the query
exposes: each has to hold by the second rule if it holds by the first. A complement turns this
around, so the rules still have to agree on the tests that complements enclose. What a query says
of a posting is carried over in this way to the posting's account and to its transaction.
-/
namespace JournalSearch

namespace Query

inductive Mentions : Query → Test → Prop
  | self (t : Test) : Mentions (test t) t
  | ofComplement {q : Query} {t : Test} (h : Mentions q t) : Mentions (complement q) t
  | ofAnyOf {qs : List Query} {q : Query} {t : Test} (hq : q ∈ qs) (h : Mentions q t) :
      Mentions (anyOf qs) t
  | ofAllOf {qs : List Query} {q : Query} {t : Test} (hq : q ∈ qs) (h : Mentions q t) :
      Mentions (allOf qs) t

def Encloses (q : Query) (t : Test) : Prop :=
  ∃ inner, Exposes q (complement inner) ∧ Mentions inner t

@[simp]
theorem mentions_complement_iff (q : Query) (t : Test) :
    Mentions (complement q) t ↔ Mentions q t := by
  constructor
  · intro h
    cases h with
    | ofComplement h => exact h
  · exact .ofComplement

@[simp]
theorem mentions_anyOf_iff (qs : List Query) (t : Test) :
    Mentions (anyOf qs) t ↔ ∃ q ∈ qs, Mentions q t := by
  constructor
  · intro h
    cases h with
    | ofAnyOf hq h => exact ⟨_, hq, h⟩
  · rintro ⟨q, hq, h⟩
    exact .ofAnyOf hq h

@[simp]
theorem mentions_allOf_iff (qs : List Query) (t : Test) :
    Mentions (allOf qs) t ↔ ∃ q ∈ qs, Mentions q t := by
  constructor
  · intro h
    cases h with
    | ofAllOf hq h => exact ⟨_, hq, h⟩
  · rintro ⟨q, hq, h⟩
    exact .ofAllOf hq h

@[simp]
theorem mentions_test_iff (t u : Test) : Mentions (test t) u ↔ u = t := by
  constructor
  · intro h
    cases h with
    | self => rfl
  · rintro rfl
    exact .self u

section
variable {rule rule' : Test → Bool} {q : Query}

/-- The verdict depends on nothing but what the rule says of the tests that are mentioned. -/
theorem eval_congr (h : ∀ t, Mentions q t → rule t = rule' t) : eval rule q = eval rule' q := by
  induction q with
  | everything => rfl
  | nothing => rfl
  | complement q ih =>
    rw [eval_complement, eval_complement, ih fun t ht => h t (.ofComplement ht)]
  | anyOf qs ih =>
    have hterms : ∀ q ∈ qs, eval rule q = eval rule' q := fun q hq =>
      ih q hq fun t ht => h t (.ofAnyOf hq ht)
    rw [Bool.eq_iff_iff, eval_anyOf_iff, eval_anyOf_iff]
    exact exists_congr fun q => and_congr_right fun hq => by rw [hterms q hq]
  | allOf qs ih =>
    have hterms : ∀ q ∈ qs, eval rule q = eval rule' q := fun q hq =>
      ih q hq fun t ht => h t (.ofAllOf hq ht)
    rw [Bool.eq_iff_iff, eval_allOf_iff, eval_allOf_iff]
    exact forall_congr' fun q => forall_congr' fun hq => by rw [hterms q hq]
  | test t => exact h t (.self t)

/-- A query goes on to hold if the exposed tests do and the enclosed ones keep their verdicts. -/
theorem eval_of_eval (henclosed : ∀ t, Encloses q t → rule t = rule' t)
    (hexposed : ∀ t, Exposes q (test t) → rule t = true → rule' t = true)
    (h : eval rule q = true) : eval rule' q = true := by
  induction q with
  | everything => rfl
  | nothing => cases h
  | complement q =>
    have hsame : eval rule q = eval rule' q :=
      eval_congr fun t ht => henclosed t ⟨q, .self _, ht⟩
    rwa [eval_complement, ← hsame, ← eval_complement]
  | anyOf qs ih =>
    obtain ⟨q, hq, hterm⟩ := (eval_anyOf_iff rule qs).mp h
    refine (eval_anyOf_iff rule' qs).mpr ⟨q, hq, ih q hq ?_ ?_ hterm⟩
    · rintro t ⟨inner, hinner, ht⟩
      exact henclosed t ⟨inner, .ofAnyOf hq hinner, ht⟩
    · exact fun t ht => hexposed t (.ofAnyOf hq ht)
  | allOf qs ih =>
    refine (eval_allOf_iff rule' qs).mpr fun q hq => ih q hq ?_ ?_ ?_
    · rintro t ⟨inner, hinner, ht⟩
      exact henclosed t ⟨inner, .ofAllOf hq hinner, ht⟩
    · exact fun t ht => hexposed t (.ofAllOf hq ht)
    · exact (eval_allOf_iff rule qs).mp h q hq
  | test t => exact hexposed t (.self _) h

end

section
variable (search : String → String → Bool) {p : Posting} {t : Transaction}

/-- The transaction passes a test that one of its postings passes, unless the posting can do so in
a way of its own: as a cleared one, as a virtual one, or by an effective date that it has itself. -/
theorem passes_transaction_of_passes_posting (hp : p ∈ t.postings) {u : Test}
    (hcleared : u ≠ .cleared true) (hreal : u ≠ .real false)
    (heffective : ∀ span, u = .effectiveDate span → p.effectiveDate = none)
    (h : (Entity.posting ⟨p, some t.heading⟩).passes search u = true) :
    (Entity.transaction t).passes search u = true := by
  have hname : u.asksName = true → (Entity.transaction t).passes search u = true := by
    intro hu
    rw [Entity.passes_posting_of_asksName search _ hu] at h
    exact (Entity.passes_transaction_iff_of_asksName search t hu).mpr ⟨p, hp, h⟩
  have hheading : u.asksHeading = true → (Entity.transaction t).passes search u = true := by
    intro hu
    rwa [← Entity.passes_posting_of_asksHeading search p t hu]
  cases u with
  | account pattern => exact hname rfl
  | depth limit => exact hname rfl
  | description pattern => exact hheading rfl
  | date span => exact hheading rfl
  | showEmpty value => rfl
  | effectiveDate span =>
    have hdate : LinkedPosting.effectiveDate? ⟨p, some t.heading⟩ =
        some t.heading.effectiveOrDate := by
      rw [LinkedPosting.effectiveDate?, heffective span rfl]
      rfl
    change Option.any span.contains (LinkedPosting.effectiveDate? _) = true at h
    rwa [hdate] at h
  | cleared value =>
    cases value with
    | true => exact absurd rfl hcleared
    | false =>
      have hneither : (p.cleared || t.heading.cleared) = false := (beq_iff_eq.mp h).symm
      exact beq_iff_eq.mpr (Bool.or_eq_false_iff.mp hneither).2.symm
  | real value =>
    cases value with
    | true =>
      have hown : p.isReal = true := (beq_iff_eq.mp h).symm
      exact beq_iff_eq.mpr (List.any_eq_true.mpr ⟨p, hp, hown⟩).symm
    | false => exact absurd rfl hreal

/-- The account passes a test that the posting passes, as it is asked for no more than its name. -/
theorem passes_account_of_passes_posting {p : LinkedPosting} {u : Test}
    (h : (Entity.posting p).passes search u = true) :
    (Entity.account p.posting.account).passes search u = true := by
  by_cases hu : u.asksName = true
  · rwa [← Entity.passes_posting_of_asksName search p hu]
  · cases u with
    | account pattern => exact absurd rfl hu
    | depth limit => exact absurd rfl hu
    | _ => rfl

theorem passes_posting_eq_passes_account (p : LinkedPosting) {u : Test}
    (hu : u.asksName = true ∨ u.asksNothing = true) :
    (Entity.posting p).passes search u = (Entity.account p.posting.account).passes search u := by
  rcases hu with hname | hnothing
  · exact Entity.passes_posting_of_asksName search p hname
  · rw [Entity.passes_of_asksNothing search _ hnothing,
      Entity.passes_of_asksNothing search _ hnothing]

end

variable {q : Query}

/-- A query that matches a posting matches the transaction that lists it, too, if complements
enclose nothing but tests of the heading, and no test outside of them can be passed by the posting
in a way of its own: as a cleared one, as a virtual one, or by its own effective date. -/
theorem matchesTransaction_of_matchesPosting (search : String → String → Bool) {t : Transaction}
    {p : LinkedPosting} (hp : p ∈ t.linkedPostings)
    (henclosed : ∀ u, Encloses q u → u.asksHeading = true ∨ u.asksNothing = true)
    (hcleared : ¬Exposes q (test (.cleared true))) (hreal : ¬Exposes q (test (.real false)))
    (heffective : ∀ span, Exposes q (test (.effectiveDate span)) → p.posting.effectiveDate = none)
    (h : Id.run (q.matchesPosting search p) = true) :
    Id.run (q.matchesTransaction search t) = true := by
  obtain ⟨own, hown, rfl⟩ := List.mem_map.mp hp
  have hposting : eval ((Entity.posting ⟨own, some t.heading⟩).passes search) q = true := h
  change eval ((Entity.transaction t).passes search) q = true
  refine eval_of_eval (fun u hu => ?_) (fun u hu hpasses => ?_) hposting
  · rcases henclosed u hu with hheading | hnothing
    · exact Entity.passes_posting_of_asksHeading search own t hheading
    · rw [Entity.passes_of_asksNothing search _ hnothing,
        Entity.passes_of_asksNothing search _ hnothing]
  · refine passes_transaction_of_passes_posting search hown ?_ ?_ ?_ hpasses
    · rintro rfl
      exact hcleared hu
    · rintro rfl
      exact hreal hu
    · rintro span rfl
      exact heffective span hu

/-- The posting is not cleared and takes its effective date from the transaction. -/
theorem matchesTransaction_of_matchesPosting_lunch :
    ∃ (q : Query) (t : Transaction) (p : LinkedPosting),
      q = allOf
        [anyOf [test (.account "food"), test (.depth 0)],
          complement (anyOf [test (.description "gift"), complement (test (.showEmpty true))]),
          test (.cleared false), test (.real true),
          test (.effectiveDate ⟨some ⟨2012, 6, 1, by decide, by decide, by decide⟩, none⟩)] ∧
      p ∈ t.linkedPostings ∧
      Id.run (q.matchesPosting (fun pattern text => pattern == text) p) = true ∧
      Id.run (q.matchesTransaction (fun pattern text => pattern == text) t) = true := by
  let t : Transaction :=
    ⟨⟨⟨2012, 6, 20, by decide, by decide, by decide⟩, "lunch", none, false⟩,
      [⟨"cash", true, .virtual, none⟩, ⟨"food", false, .regular, none⟩]⟩
  let p : LinkedPosting := ⟨⟨"food", false, .regular, none⟩, some t.heading⟩
  have hp : p ∈ t.linkedPostings := by decide
  refine ⟨_, t, p, rfl, hp, ?_, ?_⟩
  · decide
  · refine matchesTransaction_of_matchesPosting _ hp ?_ ?_ ?_ ?_ ?_
    · rintro u ⟨inner, hinner, hu⟩
      obtain rfl : inner = _ := by
        simpa using hinner
      obtain rfl | rfl : u = .description "gift" ∨ u = .showEmpty true := by simpa using hu
      · exact .inl rfl
      · exact .inr rfl
    · simp
    · simp
    · exact fun span _ => rfl
    · decide

/-- A query that matches a posting matches the posting's account, too, if complements enclose
nothing but tests of its name. If there are no other tests, the verdicts are the same. -/
theorem matchesAccount_of_matchesPosting (search : String → String → Bool) (p : LinkedPosting) :
    ((∀ u, Encloses q u → u.asksName = true ∨ u.asksNothing = true) →
        Id.run (q.matchesPosting search p) = true →
          Id.run (q.matchesAccount search p.posting.account) = true) ∧
      ((∀ u, Mentions q u → u.asksName = true ∨ u.asksNothing = true) →
        Id.run (q.matchesPosting search p) =
          Id.run (q.matchesAccount search p.posting.account)) := by
  constructor
  · intro henclosed hposting
    change eval ((Entity.posting p).passes search) q = true at hposting
    change eval ((Entity.account p.posting.account).passes search) q = true
    refine eval_of_eval (fun u hu => ?_) (fun u _ hpasses => ?_) hposting
    · exact passes_posting_eq_passes_account search p (henclosed u hu)
    · exact passes_account_of_passes_posting search hpasses
  · intro hmentioned
    change eval ((Entity.posting p).passes search) q =
      eval ((Entity.account p.posting.account).passes search) q
    exact eval_congr fun u hu => passes_posting_eq_passes_account search p (hmentioned u hu)

/-- An unlinked posting, which has no date. Of the complement it says what its account does. -/
theorem matchesAccount_of_matchesPosting_unlinked :
    ∃ (q inner : Query) (p : LinkedPosting),
      inner = complement (anyOf [test (.account "food"), complement (test (.depth 2))]) ∧
      q = allOf [inner, anyOf [test (.date .unbounded), test (.real true)]] ∧
      p = ⟨⟨"assets:cash", false, .regular, none⟩, none⟩ ∧
      Id.run (q.matchesPosting (fun pattern text => pattern == text) p) = true ∧
      Id.run (q.matchesAccount (fun pattern text => pattern == text) "assets:cash") = true ∧
      Id.run (inner.matchesPosting (fun pattern text => pattern == text) p) =
        Id.run (inner.matchesAccount (fun pattern text => pattern == text) "assets:cash") := by
  let inner : Query := complement (anyOf [test (.account "food"), complement (test (.depth 2))])
  let q : Query := allOf [inner, anyOf [test (.date .unbounded), test (.real true)]]
  let p : LinkedPosting := ⟨⟨"assets:cash", false, .regular, none⟩, none⟩
  have hinner : ∀ u, Mentions inner u → u.asksName = true ∨ u.asksNothing = true := by
    intro u hu
    obtain rfl | rfl : u = .account "food" ∨ u = .depth 2 := by simpa [inner] using hu
    · exact .inl rfl
    · exact .inl rfl
  have henclosed : ∀ u, Encloses q u → u.asksName = true ∨ u.asksNothing = true := by
    rintro u ⟨part, hpart, hu⟩
    obtain rfl : part = anyOf [test (.account "food"), complement (test (.depth 2))] := by
      simpa [q, inner] using hpart
    exact hinner u (.ofComplement hu)
  have hmatch : Id.run (q.matchesPosting (fun pattern text => pattern == text) p) = true := by
    decide
  exact ⟨q, inner, p, rfl, rfl, rfl, hmatch,
    (matchesAccount_of_matchesPosting _ p).1 henclosed hmatch,
    (matchesAccount_of_matchesPosting _ p).2 hinner⟩

end Query

end JournalSearch
