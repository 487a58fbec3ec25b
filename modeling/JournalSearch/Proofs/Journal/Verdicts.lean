import JournalSearch.Journal.Store
import JournalSearch.Proofs.Query.Verdict
import Mathlib.Data.Option.Basic

/-!
What verdicts on the records of a journal depend on. Of a transaction a query learns what the
heading says and which accounts its postings name, but not how often or in which order, nor where
the postings are linked now. Of a posting it learns what the posting says itself and what the
heading of its transaction adds, and nothing of the postings beside it. So records of two journals
that agree on this have the same verdicts, whatever else the journals hold.
-/
namespace JournalSearch

open Calendar (Date Span)

namespace Entity

variable (search : String → String → Bool)

/-- A test of accounts sees the set of accounts only. -/
theorem passes_transaction_congr {t u : Transaction} (hdate : t.heading.date = u.heading.date)
    (hdescription : t.heading.description = u.heading.description)
    (heffective : t.heading.effectiveOrDate = u.heading.effectiveOrDate)
    (hcleared : t.heading.cleared = u.heading.cleared)
    (haccounts : ∀ account,
      (∃ p ∈ t.postings, p.account = account) ↔ ∃ p ∈ u.postings, p.account = account)
    (hreal : t.hasRealPosting = u.hasRealPosting) :
    (transaction t).passes search = (transaction u).passes search := by
  have hnamed : ∀ test : Test, test.asksName = true →
      (transaction t).passes search test = (transaction u).passes search test := by
    intro test htest
    rw [Bool.eq_iff_iff, passes_transaction_iff_of_asksName search t htest,
      passes_transaction_iff_of_asksName search u htest]
    constructor
    · rintro ⟨p, hp, hpasses⟩
      obtain ⟨r, hr, hsame⟩ := (haccounts p.account).mp ⟨p, hp, rfl⟩
      exact ⟨r, hr, hsame ▸ hpasses⟩
    · rintro ⟨p, hp, hpasses⟩
      obtain ⟨r, hr, hsame⟩ := (haccounts p.account).mpr ⟨p, hp, rfl⟩
      exact ⟨r, hr, hsame ▸ hpasses⟩
  funext test
  cases test with
  | account pattern => exact hnamed (.account pattern) rfl
  | depth limit => exact hnamed (.depth limit) rfl
  | description pattern => exact congrArg (search pattern) hdescription
  | date span => exact congrArg span.contains hdate
  | effectiveDate span => exact congrArg span.contains heffective
  | cleared value => exact congrArg (value == ·) hcleared
  | real value => exact congrArg (value == ·) hreal
  | showEmpty value => rfl

/-- It does not matter whether a mark or a date is the posting's own or that of the heading. -/
theorem passes_posting_congr {p r : LinkedPosting}
    (haccount : p.posting.account = r.posting.account)
    (hreal : p.posting.isReal = r.posting.isReal) (hcleared : p.isCleared = r.isCleared)
    (heffective : p.effectiveDate? = r.effectiveDate?)
    (hdescription : p.description = r.description)
    (hdate : p.heading.map Heading.date = r.heading.map Heading.date) :
    (posting p).passes search = (posting r).passes search := by
  have hany : ∀ (h? : Option Heading) (span : Span),
      h?.any (fun h => span.contains h.date) = (h?.map Heading.date).any span.contains := by
    intro h? span
    cases h? <;> rfl
  funext test
  cases test with
  | account pattern => exact congrArg (search pattern) haccount
  | depth limit => exact congrArg (fun name => decide (AccountName.level name ≤ limit)) haccount
  | description pattern => exact congrArg (search pattern) hdescription
  | date span =>
    change p.heading.any _ = r.heading.any _
    rw [hany, hany, hdate]
  | effectiveDate span => exact congrArg (Option.any span.contains) heffective
  | cleared value => exact congrArg (value == ·) hcleared
  | real value => exact congrArg (value == ·) hreal
  | showEmpty value => rfl

end Entity

namespace Journal

def transactionVerdict? (j : Journal) (search : String → String → Bool) (q : Query)
    (id : RecordId) : Option Bool :=
  (j.fullTransaction? id).map fun t => Id.run (q.matchesTransaction search t)

def postingVerdict? (j : Journal) (search : String → String → Bool) (q : Query)
    (id : RecordId) : Option Bool :=
  (j.linkedPosting? id).map fun p => Id.run (q.matchesPosting search p)

/-- The transaction lists a posting with this property, whatever the posting is linked to. -/
def Lists (j : Journal) (t : StoredTransaction) (P : Posting → Prop) : Prop :=
  ∃ id ∈ t.postings, ∃ p, j.posting? id = some p ∧ P p.posting

def headingOf? (j : Journal) (p : StoredPosting) : Option Heading :=
  (p.transaction.bind j.transaction?).map StoredTransaction.heading

/-- Agreement of two transactions on what a query can learn of them. -/
structure TransactionsAgree (j k : Journal) (t u : StoredTransaction) : Prop where
  date : t.heading.date = u.heading.date
  description : t.heading.description = u.heading.description
  effectiveOrDate : t.heading.effectiveOrDate = u.heading.effectiveOrDate
  cleared : t.heading.cleared = u.heading.cleared
  accounts : ∀ account, j.Lists t (·.account = account) ↔ k.Lists u (·.account = account)
  real : j.Lists t (·.isReal = true) ↔ k.Lists u (·.isReal = true)

/-- Agreement of two postings on what they say themselves, and of the headings that they have from
their transactions. -/
structure PostingsAgree (j k : Journal) (p r : StoredPosting) : Prop where
  account : p.posting.account = r.posting.account
  cleared : p.posting.cleared = r.posting.cleared
  kind : p.posting.kind = r.posting.kind
  effectiveDate : p.posting.effectiveDate = r.posting.effectiveDate
  headings : Option.Rel
    (fun g h => g.date = h.date ∧ g.description = h.description ∧ g.cleared = h.cleared ∧
      g.effectiveDate = h.effectiveDate)
    (j.headingOf? p) (k.headingOf? r)

def full (j : Journal) (t : StoredTransaction) : Transaction :=
  ⟨t.heading, t.postings.filterMap fun id => (j.posting? id).map StoredPosting.posting⟩

theorem fullTransaction?_eq_map (j : Journal) (id : RecordId) :
    j.fullTransaction? id = (j.transaction? id).map j.full := by
  rw [fullTransaction?, Option.map_eq_bind]
  rfl

theorem linkedPosting?_eq_map (j : Journal) (id : RecordId) :
    j.linkedPosting? id = (j.posting? id).map fun p => ⟨p.posting, j.headingOf? p⟩ := by
  rw [linkedPosting?, Option.map_eq_bind]
  rfl

theorem exists_mem_full_iff {j : Journal} {t : StoredTransaction} {P : Posting → Prop} :
    (∃ p ∈ (j.full t).postings, P p) ↔ j.Lists t P := by
  constructor
  · rintro ⟨p, hp, hP⟩
    obtain ⟨id, hid, hsome⟩ := List.mem_filterMap.mp hp
    obtain ⟨stored, hstored, rfl⟩ := Option.map_eq_some_iff.mp hsome
    exact ⟨id, hid, stored, hstored, hP⟩
  · rintro ⟨id, hid, stored, hstored, hP⟩
    exact ⟨_, List.mem_filterMap.mpr ⟨id, hid, Option.map_eq_some_iff.mpr ⟨_, hstored, rfl⟩⟩, hP⟩

theorem hasRealPosting_full_iff {j : Journal} {t : StoredTransaction} :
    (j.full t).hasRealPosting = true ↔ j.Lists t (·.isReal = true) := by
  rw [← exists_mem_full_iff]
  exact List.any_eq_true

variable {j k : Journal}

theorem TransactionsAgree.passes_eq {t u : StoredTransaction} (h : TransactionsAgree j k t u)
    (search : String → String → Bool) :
    (Entity.transaction (j.full t)).passes search =
      (Entity.transaction (k.full u)).passes search := by
  refine Entity.passes_transaction_congr search h.date h.description h.effectiveOrDate h.cleared
    (fun account => ?_) ?_
  · rw [exists_mem_full_iff, exists_mem_full_iff]
    exact h.accounts account
  · rw [Bool.eq_iff_iff, hasRealPosting_full_iff, hasRealPosting_full_iff]
    exact h.real

theorem PostingsAgree.passes_eq {p r : StoredPosting} (h : PostingsAgree j k p r)
    (search : String → String → Bool) :
    (Entity.posting ⟨p.posting, j.headingOf? p⟩).passes search =
      (Entity.posting ⟨r.posting, k.headingOf? r⟩).passes search := by
  have hreal : p.posting.isReal = r.posting.isReal := by rw [Posting.isReal, Posting.isReal, h.kind]
  have hlink := h.headings
  generalize j.headingOf? p = g? at hlink ⊢
  generalize k.headingOf? r = h? at hlink ⊢
  cases hlink with
  | none =>
    refine Entity.passes_posting_congr search h.account hreal ?_ ?_ rfl rfl
    · rw [LinkedPosting.isCleared, LinkedPosting.isCleared, h.cleared]
    · rw [LinkedPosting.effectiveDate?, LinkedPosting.effectiveDate?, h.effectiveDate]
  | some hsame =>
    obtain ⟨hdate, hdescription, hcleared, heffective⟩ := hsame
    refine Entity.passes_posting_congr search h.account hreal ?_ ?_ hdescription ?_
    · simp [LinkedPosting.isCleared, h.cleared, hcleared]
    · simp [LinkedPosting.effectiveDate?, h.effectiveDate, Heading.effectiveOrDate, heffective,
        hdate]
    · simp [hdate]

/-- Equal contents are more than the agreement that matters for queries. -/
theorem transactionsAgree_of_full_eq {t u : StoredTransaction} (h : j.full t = k.full u) :
    TransactionsAgree j k t u := by
  have hheading : t.heading = u.heading := congrArg Transaction.heading h
  refine ⟨by rw [hheading], by rw [hheading], by rw [hheading], by rw [hheading], ?_, ?_⟩
  · intro account
    rw [← exists_mem_full_iff, ← exists_mem_full_iff, h]
  · rw [← hasRealPosting_full_iff, ← hasRealPosting_full_iff, h]

theorem exists_of_content?_eq_transaction {id : RecordId} {tr : Transaction}
    (h : j.content? id = some (.transaction tr)) :
    ∃ t, j.transaction? id = some t ∧ j.full t = tr := by
  rw [content?, fullTransaction?_eq_map] at h
  cases hp : j.posting? id with
  | some p => simp [hp] at h
  | none => simpa [hp] using h

/-- Transactions that agree on what queries can learn of them have the same verdicts, and so have
those with equal contents; the postings may be listed in any order and repeatedly, and be linked
anywhere. Postings that agree, with their transactions, have the same verdicts, whatever else these
list. -/
theorem verdict_eq_of_agree (search : String → String → Bool) (q : Query) (j k : Journal)
    (id id' : RecordId) :
    (∀ t u, j.transaction? id = some t → k.transaction? id' = some u → TransactionsAgree j k t u →
        ∃ verdict, j.transactionVerdict? search q id = some verdict ∧
          k.transactionVerdict? search q id' = some verdict) ∧
      (∀ content, j.content? id = some (.transaction content) →
        k.content? id' = some (.transaction content) →
          ∃ verdict, j.transactionVerdict? search q id = some verdict ∧
            k.transactionVerdict? search q id' = some verdict) ∧
      ∀ p r, j.posting? id = some p → k.posting? id' = some r → PostingsAgree j k p r →
        ∃ verdict, j.postingVerdict? search q id = some verdict ∧
          k.postingVerdict? search q id' = some verdict := by
  have htransactions : ∀ t u, j.transaction? id = some t → k.transaction? id' = some u →
      TransactionsAgree j k t u →
        ∃ verdict, j.transactionVerdict? search q id = some verdict ∧
          k.transactionVerdict? search q id' = some verdict := by
    intro t u ht hu hagree
    refine ⟨q.eval ((Entity.transaction (j.full t)).passes search), ?_, ?_⟩
    · rw [transactionVerdict?, fullTransaction?_eq_map, ht]
      rfl
    · rw [transactionVerdict?, fullTransaction?_eq_map, hu, hagree.passes_eq search]
      rfl
  refine ⟨htransactions, fun content hj hk => ?_, fun p r hp hr hagree => ?_⟩
  · obtain ⟨t, ht, hfull⟩ := exists_of_content?_eq_transaction hj
    obtain ⟨u, hu, hfull'⟩ := exists_of_content?_eq_transaction hk
    exact htransactions t u ht hu (transactionsAgree_of_full_eq (hfull.trans hfull'.symm))
  · refine ⟨q.eval ((Entity.posting ⟨p.posting, j.headingOf? p⟩).passes search), ?_, ?_⟩
    · rw [postingVerdict?, linkedPosting?_eq_map, hp]
      rfl
    · rw [postingVerdict?, linkedPosting?_eq_map, hr, hagree.passes_eq search]
      rfl

/-- In the second journal the rent is listed once, is cleared, and is linked to another transaction
by now. The fee is the same in both, and so is the tip that belongs to it. -/
theorem verdict_eq_of_agree_relinked :
    ∃ (q : Query) (j k : Journal),
      q = .allOf [.test (.account "rent"), .complement (.test (.cleared true))] ∧
      (j.transaction? "may").map StoredTransaction.postings = some ["rent", "cash", "rent"] ∧
      (k.transaction? "may").map StoredTransaction.postings = some ["cash", "rent"] ∧
      (k.posting? "rent").map StoredPosting.transaction = some (some "june") ∧
      (∃ verdict, j.transactionVerdict? (fun pattern text => pattern == text) q "may" =
          some verdict ∧
        k.transactionVerdict? (fun pattern text => pattern == text) q "may" = some verdict) ∧
      (∃ verdict, j.transactionVerdict? (fun pattern text => pattern == text) q "fee" =
          some verdict ∧
        k.transactionVerdict? (fun pattern text => pattern == text) q "fee" = some verdict) ∧
      ∃ verdict, j.postingVerdict? (fun pattern text => pattern == text) q "tip" = some verdict ∧
        k.postingVerdict? (fun pattern text => pattern == text) q "tip" = some verdict := by
  let may : Date := ⟨2012, 5, 1, by decide, by decide, by decide⟩
  let june : Date := ⟨2012, 6, 1, by decide, by decide, by decide⟩
  let cash : Posting := ⟨"cash", false, .regular, none⟩
  let tip : Posting := ⟨"tip", false, .regular, none⟩
  let j : Journal := empty.run
    [.newPosting "rent" ⟨"rent", false, .regular, none⟩, .newPosting "cash" cash,
      .newTransaction "may" ⟨may, "", none, false⟩ ["rent", "cash", "rent"],
      .newPosting "tip" tip, .newTransaction "fee" ⟨june, "", none, true⟩ ["tip"]]
  let k : Journal := empty.run
    [.newPosting "rent" ⟨"rent", true, .virtual, some june⟩, .newPosting "cash" cash,
      .newTransaction "may" ⟨may, "", some may, false⟩ ["cash", "rent"],
      .newTransaction "june" ⟨june, "", none, true⟩ ["rent"],
      .newPosting "tip" tip, .newTransaction "fee" ⟨june, "", none, true⟩ ["tip"]]
  let t : StoredTransaction := ⟨⟨may, "", none, false⟩, ["rent", "cash", "rent"]⟩
  let u : StoredTransaction := ⟨⟨may, "", some may, false⟩, ["cash", "rent"]⟩
  have hj : (j.full t).postings = [⟨"rent", false, .regular, none⟩, cash,
      ⟨"rent", false, .regular, none⟩] := rfl
  have hk : (k.full u).postings = [cash, ⟨"rent", true, .virtual, some june⟩] := rfl
  have hmay : TransactionsAgree j k t u := by
    refine ⟨rfl, rfl, rfl, rfl, fun account => ?_, ?_⟩
    · rw [← exists_mem_full_iff, ← exists_mem_full_iff, hj, hk]
      simp only [List.mem_cons, List.not_mem_nil, or_false, exists_eq_or_imp, exists_eq_left]
      tauto
    · rw [← exists_mem_full_iff, ← exists_mem_full_iff, hj, hk]
      decide
  have htip : PostingsAgree j k ⟨tip, some "fee"⟩ ⟨tip, some "fee"⟩ :=
    ⟨rfl, rfl, rfl, rfl, .some ⟨rfl, rfl, rfl, rfl⟩⟩
  let q : Query := .allOf [.test (.account "rent"), .complement (.test (.cleared true))]
  refine ⟨q, j, k, rfl, rfl, rfl, rfl, ?_, ?_, ?_⟩
  · exact (verdict_eq_of_agree _ q j k "may" "may").1 t u rfl rfl hmay
  · exact (verdict_eq_of_agree _ q j k "fee" "fee").2.1 ⟨⟨june, "", none, true⟩, [tip]⟩ rfl rfl
  · exact (verdict_eq_of_agree _ q j k "tip" "tip").2.2 _ _ rfl rfl htip

end Journal

end JournalSearch
