import JournalSearch.Proofs.Query.Leniency
import JournalSearch.Proofs.Calendar.SpanBounds

/-!
Verdicts when the search for a pattern may fail. Terms are looked at in order and no further than
the first that decides, so that a term may guard a later one that fails. A pass takes out terms that
never decide, and moves none forward but tests for dates, which always answer: what decided before
still does, and nothing is looked at on the way to it that was not looked at before. So a query that
answers is simplified to one that answers, and with the same verdict.
-/
namespace JournalSearch

open Calendar (Span)

namespace Query

variable {ε : Type} {rule : Test → Except ε Bool}

/-- Looks at terms in order, up to the first with the verdict that decides. -/
def scan (rule : Test → Except ε Bool) (deciding : Bool) : List Query → Except ε Bool
  | [] => return !deciding
  | q :: qs => do if (← holds rule q) = deciding then return deciding else scan rule deciding qs

theorem holds_allOf (qs : List Query) : holds rule (allOf qs) = scan rule false qs := by
  change holdsAll rule qs = _
  induction qs with
  | nil => rfl
  | cons q qs ih =>
    rw [holdsAll, scan, ih]
    congr 1
    funext found
    cases found <;> rfl

theorem holds_anyOf (qs : List Query) : holds rule (anyOf qs) = scan rule true qs := by
  change holdsAny rule qs = _
  induction qs with
  | nil => rfl
  | cons q qs ih => rw [holdsAny, scan, ih]

/-- The second query answers whenever the first does, and with the same verdict. -/
def AnswersLike (rule : Test → Except ε Bool) (q r : Query) : Prop :=
  ∀ verdict, holds rule q = .ok verdict → holds rule r = .ok verdict

section
variable {deciding verdict : Bool} {q : Query} {qs : List Query}

theorem scan_cons_eq_ok_iff :
    scan rule deciding (q :: qs) = .ok verdict ↔
      (holds rule q = .ok (!deciding) ∧ scan rule deciding qs = .ok verdict) ∨
        (holds rule q = .ok deciding ∧ verdict = deciding) := by
  rw [scan]
  cases holds rule q with
  | error e => simp [bind, Except.bind]
  | ok found =>
    cases found <;> cases deciding <;> simp [bind, Except.bind, pure, Except.pure, eq_comm]

theorem scan_eq_not_iff :
    scan rule deciding qs = .ok (!deciding) ↔ ∀ q ∈ qs, holds rule q = .ok (!deciding) := by
  induction qs with
  | nil => simp [scan, pure, Except.pure]
  | cons q qs ih => simp [scan_cons_eq_ok_iff, ih]

theorem exists_of_scan_eq (h : scan rule deciding qs = .ok deciding) :
    ∃ q ∈ qs, holds rule q = .ok deciding := by
  induction qs with
  | nil => simp [scan, pure, Except.pure] at h
  | cons q qs ih =>
    rcases scan_cons_eq_ok_iff.mp h with ⟨-, hrest⟩ | ⟨hfirst, -⟩
    · obtain ⟨r, hr, hfound⟩ := ih hrest
      exact ⟨r, List.mem_cons_of_mem _ hr, hfound⟩
    · exact ⟨q, List.mem_cons_self, hfirst⟩

/-- A term that decides if it is reached decides whenever there is an answer. -/
theorem eq_of_scan_of_mem (hq : q ∈ qs) (hdecides : holds rule q = .ok deciding)
    (h : scan rule deciding qs = .ok verdict) : verdict = deciding := by
  by_contra hne
  rw [Bool.eq_not_of_ne hne, scan_eq_not_iff] at h
  have hfound := h q hq
  simp [hdecides] at hfound

/-- Terms that are all the same answer like one. -/
theorem holds_of_scan_of_same (hq : q ∈ qs) (hsame : ∀ r ∈ qs, r = q)
    (h : scan rule deciding qs = .ok verdict) : holds rule q = .ok verdict := by
  by_cases hverdict : verdict = deciding
  · rw [hverdict] at h ⊢
    obtain ⟨r, hr, hfound⟩ := exists_of_scan_eq h
    rwa [hsame r hr] at hfound
  · rw [Bool.eq_not_of_ne hverdict, scan_eq_not_iff] at h
    rw [Bool.eq_not_of_ne hverdict]
    exact h q hq

/-- Terms that never decide can be left out. -/
theorem scan_filter {keep : Query → Bool}
    (hdropped : ∀ q ∈ qs, keep q = false → holds rule q = .ok (!deciding)) :
    scan rule deciding (qs.filter keep) = scan rule deciding qs := by
  induction qs with
  | nil => rfl
  | cons q qs ih =>
    obtain ⟨hq, hrest⟩ := List.forall_mem_cons.mp hdropped
    cases hkeep : keep q with
    | true => rw [List.filter_cons_of_pos hkeep, scan, scan, ih hrest]
    | false =>
      rw [List.filter_cons_of_neg (by simp [hkeep]), ih hrest, scan, hq hkeep]
      cases deciding <;> rfl

theorem scan_map {f : Query → Query} (hf : ∀ q ∈ qs, AnswersLike rule q (f q))
    (h : scan rule deciding qs = .ok verdict) : scan rule deciding (qs.map f) = .ok verdict := by
  induction qs with
  | nil => exact h
  | cons q qs ih =>
    obtain ⟨hq, hrest⟩ := List.forall_mem_cons.mp hf
    rw [List.map_cons, scan_cons_eq_ok_iff]
    rcases scan_cons_eq_ok_iff.mp h with ⟨hpassed, htail⟩ | ⟨hfound, hverdict⟩
    · exact .inl ⟨hq _ hpassed, ih hrest htail⟩
    · exact .inr ⟨hq _ hfound, hverdict⟩

theorem scan_append_eq_ok_iff {before : List Query} :
    scan rule deciding (before ++ qs) = .ok verdict ↔
      (scan rule deciding before = .ok (!deciding) ∧ scan rule deciding qs = .ok verdict) ∨
        (scan rule deciding before = .ok deciding ∧ verdict = deciding) := by
  induction before with
  | nil => simp [scan, pure, Except.pure]
  | cons q before ih =>
    rw [List.cons_append, scan_cons_eq_ok_iff, ih, scan_cons_eq_ok_iff, scan_cons_eq_ok_iff]
    simp
    tauto

theorem exists_scan (h : ∀ q ∈ qs, ∃ found, holds rule q = .ok found) :
    ∃ found, scan rule deciding qs = .ok found := by
  induction qs with
  | nil => exact ⟨!deciding, rfl⟩
  | cons q qs ih =>
    obtain ⟨⟨found, hfound⟩, hrest⟩ := List.forall_mem_cons.mp h
    by_cases hdecides : found = deciding
    · exact ⟨deciding, scan_cons_eq_ok_iff.mpr (.inr ⟨hdecides ▸ hfound, rfl⟩)⟩
    · obtain ⟨later, hlater⟩ := ih hrest
      rw [Bool.eq_not_of_ne hdecides] at hfound
      exact ⟨later, scan_cons_eq_ok_iff.mpr (.inl ⟨hfound, hlater⟩)⟩

end

/-- Tests for dates always answer, and to pass the test for an intersection is to pass the tests
for both spans. -/
structure AnswersDates (rule : Test → Except ε Bool) (within : Span → Bool) : Prop where
  rule_date : ∀ s, rule (.date s) = .ok (within s)
  within_inter : ∀ a b, within (a.inter b) = (within a && within b)

/-- The query exposes no term that a pass is lenient with. -/
structure Strict (within : Span → Bool) (q : Query) : Prop where
  offers : ¬Exposes q (anyOf [])
  bounded : within .unbounded = false → ¬Exposes q (test (.date .unbounded))

section
variable {within : Span → Bool} {q : Query} {qs : List Query} {verdict : Bool}

theorem Strict.of_mem_anyOf (h : Strict within (anyOf qs)) (hq : q ∈ qs) : Strict within q :=
  ⟨fun hexposed => h.offers (.ofAnyOf hq hexposed),
    fun hwithin hexposed => h.bounded hwithin (.ofAnyOf hq hexposed)⟩

theorem Strict.of_mem_allOf (h : Strict within (allOf qs)) (hq : q ∈ qs) : Strict within q :=
  ⟨fun hexposed => h.offers (.ofAllOf hq hexposed),
    fun hwithin hexposed => h.bounded hwithin (.ofAllOf hq hexposed)⟩

theorem Strict.of_exposesLess {r : Query} (hless : ExposesLess q r) (h : Strict within q) :
    Strict within r :=
  ⟨fun hexposed => h.offers (hless _ .noChoice hexposed),
    fun hwithin hexposed => h.bounded hwithin (hless _ .openDate hexposed)⟩

/-- Tests for dates can be moved forward: they guard later terms, and none fails. -/
theorem scan_datesToFront (hrule : AnswersDates rule within) {deciding : Bool}
    (h : scan rule deciding qs = .ok verdict) :
    scan rule deciding (datesToFront qs) = .ok verdict := by
  obtain ⟨found, hfound⟩ : ∃ found, scan rule deciding (qs.filter isDate) = .ok found := by
    apply exists_scan
    intro q hq
    obtain ⟨s, rfl⟩ := isDate_iff.mp (List.mem_filter.mp hq).2
    exact ⟨within s, hrule.rule_date s⟩
  rw [datesToFront, scan_append_eq_ok_iff]
  by_cases hdecides : found = deciding
  · subst hdecides
    obtain ⟨q, hq, hholds⟩ := exists_of_scan_eq hfound
    exact .inr ⟨hfound, eq_of_scan_of_mem (List.mem_of_mem_filter hq) hholds h⟩
  · rw [Bool.eq_not_of_ne hdecides] at hfound
    refine .inl ⟨hfound, ?_⟩
    rw [scan_filter, h]
    intro q hq hdate
    exact scan_eq_not_iff.mp hfound q (List.mem_filter.mpr ⟨hq, by simpa using hdate⟩)

theorem scan_dates (hrule : AnswersDates rule within) (spans : List Span) :
    scan rule false (spans.map fun s => test (.date s)) = .ok (spans.all within) := by
  induction spans with
  | nil => rfl
  | cons s spans ih =>
    rw [List.map_cons, scan, ih, List.all_cons, holds, hrule.rule_date]
    cases within s <;> rfl

/-- Two tests for dates or more are passed together exactly if their intersection is. -/
theorem holds_interAll (hrule : AnswersDates rule within) {spans : List Span} (hne : spans ≠ []) :
    holds rule (test (.date (.interAll spans))) =
      scan rule false (spans.map fun s => test (.date s)) := by
  obtain ⟨s, rest, rfl⟩ := List.exists_cons_of_ne_nil hne
  rw [scan_dates hrule, holds, hrule.rule_date,
    Span.interAll_cons_eq_all within hrule.within_inter]

theorem answersLike_reduceWith (hrule : AnswersDates rule within) {settle : Query → Query}
    (hsettle : ∀ c, Strict within c → AnswersLike rule c (settle c)) {q : Query}
    (hq : Strict within q) : AnswersLike rule q (reduceWith settle q) := by
  induction q with
  | anyOf qs ih =>
    have hterms : ∀ q ∈ qs, AnswersLike rule q (reduceWith settle q) :=
      fun q hmem => ih q hmem (hq.of_mem_anyOf hmem)
    intro verdict h
    rw [holds_anyOf] at h
    have hstep := reduces_anyOf settle qs
    generalize reduceWith settle (anyOf qs) = reduced at hstep ⊢
    cases hstep with
    | keep _ hany => exact absurd rfl (hany qs)
    | noneOfAny => exact absurd (.self _) hq.offers
    | onlyOfAny q =>
      have hmem : q ∈ [q] := List.mem_singleton_self q
      exact hsettle q (hq.of_mem_anyOf hmem) verdict
        (holds_of_scan_of_same hmem (fun r hr => List.mem_singleton.mp hr) h)
    | oneOfAny _ q _ hmem hsame =>
      exact hterms q hmem verdict (holds_of_scan_of_same hmem hsame h)
    | everythingOfAny _ _ hmem =>
      rw [eq_of_scan_of_mem hmem rfl h]
      rfl
    | termsOfAny =>
      rw [holds_anyOf]
      apply scan_map fun q hkept => hterms q (List.mem_of_mem_filter hkept)
      rw [scan_filter, h]
      intro q _ hdropped
      obtain rfl : q = nothing := by simpa using hdropped
      rfl
  | allOf qs ih =>
    have hterms : ∀ q ∈ qs, AnswersLike rule q (reduceWith settle q) :=
      fun q hmem => ih q hmem (hq.of_mem_allOf hmem)
    intro verdict h
    rw [holds_allOf] at h
    have hstep := reduces_allOf settle qs
    generalize reduceWith settle (allOf qs) = reduced at hstep ⊢
    cases hstep with
    | keep _ _ hall => exact absurd rfl (hall qs)
    | noneOfAll => exact h
    | oneOfAll _ q hmem hsame =>
      exact hterms q hmem verdict (holds_of_scan_of_same hmem hsame h)
    | nothingOfAll _ _ hmem =>
      rw [eq_of_scan_of_mem hmem rfl h]
      rfl
    | datesOfAll spans hvaried =>
      have hne : spans ≠ [] := fun hnil => hvaried.ne_nil (by rw [hnil, List.map_nil])
      rwa [holds_interAll hrule hne]
    | termsOfAll =>
      rw [holds_allOf]
      apply scan_map fun q hkept => hterms q (mem_datesToFront_filter.mp hkept).1
      apply scan_datesToFront hrule
      rw [scan_filter, h]
      intro q _ hdropped
      obtain rfl : q = everything := by simpa using hdropped
      rfl
  | test t =>
    have hstep := reduces_reduceWith settle (test t)
    generalize reduceWith settle (test t) = reduced at hstep ⊢
    cases hstep with
    | keep => exact fun _ h => h
    | openDate =>
      intro verdict h
      rw [holds, hrule.rule_date] at h
      cases hwithin : within .unbounded with
      | true => rwa [hwithin] at h
      | false => exact absurd (.self _) (hq.bounded hwithin)
  | _ => exact fun _ h => h

theorem answersLike_simplify (hrule : AnswersDates rule within) (hq : Strict within q) :
    AnswersLike rule q q.simplify := by
  refine rel_simplify_of_kept (P := Strict within) (R := AnswersLike rule)
    Strict.of_exposesLess ?_ ?_ ?_ hq
  · exact fun q verdict h => h
  · exact fun hab hbc verdict h => hbc verdict (hab verdict h)
  · exact fun settle hsettle q hq => answersLike_reduceWith hrule hsettle hq

end

end Query

namespace Entity

def liesWithin : Entity → Span → Bool
  | account _, _ => true
  | posting p, span => p.heading.any fun h => span.contains h.date
  | transaction t, span => span.contains t.heading.date

theorem answersDates_rule (search : String → String → Except ε Bool) (e : Entity) :
    Query.AnswersDates (e.rule search) e.liesWithin where
  rule_date s := by cases e <;> rfl
  within_inter a b := by
    cases e with
    | account name => rfl
    | posting p =>
      cases hheading : p.heading with
      | none => simp [liesWithin, hheading]
      | some h =>
        simp only [liesWithin, hheading, Option.any_some]
        exact Span.contains_inter a b h.date
    | transaction t => exact Span.contains_inter a b t.heading.date

theorem isUnlinked_of_liesWithin_unbounded {e : Entity} (h : e.liesWithin .unbounded = false) :
    e.isUnlinked = true := by
  cases e with
  | account name => cases h
  | posting p =>
    cases hheading : p.heading with
    | none => simp [isUnlinked, hheading]
    | some found => simp [liesWithin, hheading] at h
  | transaction t =>
    change Span.contains .unbounded t.heading.date = false at h
    rw [Span.contains_unbounded] at h
    cases h

end Entity

namespace Query

/-- If matching comes to a verdict although some searches may fail, then matching with the
simplified query comes to the same verdict. The query is to expose no choice without terms and,
for a posting without a transaction, no test for a date within the open span. -/
theorem verdict_simplify_of_ok {search : String → String → Except ε Bool} {q : Query} {e : Entity}
    {verdict : Bool} (hoffers : ¬Exposes q (anyOf []))
    (hbounded : e.isUnlinked = true → ¬Exposes q (test (.date .unbounded)))
    (h : e.verdict search q = .ok verdict) : e.verdict search q.simplify = .ok verdict := by
  rw [Entity.verdict_eq_holds] at h ⊢
  refine answersLike_simplify (e.answersDates_rule search) ⟨hoffers, fun hwithin => ?_⟩ verdict h
  exact hbounded (Entity.isUnlinked_of_liesWithin_unbounded hwithin)

/-- The search for the empty pattern fails and is guarded by another one, and the test for a date
moves before both. The posting has no transaction. -/
theorem verdict_simplify_of_ok_of_guarded :
    ∃ (search : String → String → Except Unit Bool) (q : Query) (e : Entity),
      search "" "food" = .error () ∧
        q = allOf
          [everything, test (.account "cash"), anyOf [test (.account ""), nothing],
            test (.date ⟨some ⟨2012, 1, 1, by decide, by decide, by decide⟩, none⟩)] ∧
        e = .posting ⟨⟨"food", false, .regular, none⟩, none⟩ ∧
        ¬Exposes q (anyOf []) ∧ (e.isUnlinked = true → ¬Exposes q (test (.date .unbounded))) ∧
        e.verdict search q = .ok false ∧ e.verdict search q.simplify = .ok false := by
  refine ⟨fun pattern text => if pattern = "" then .error () else .ok (pattern == text),
    _, _, rfl, rfl, rfl, ?offers, ?bounded, ?holds,
    verdict_simplify_of_ok ?offers ?bounded ?holds⟩
  case offers => simp
  case bounded =>
    intro _
    simp [Span.unbounded]
  case holds => rfl

end Query

end JournalSearch
