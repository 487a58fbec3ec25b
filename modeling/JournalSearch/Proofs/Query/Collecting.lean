import JournalSearch.Proofs.Query.Joining
import JournalSearch.Proofs.Query.StartDate

/-!
What tests say, gathered along the tree, when terms are joined. Terms that are all the same are one
term, so that the same is said fewer times; which values are said, and which one is the first, does
not change. Only tests for dates are joined to a test of their own, and its start is the latest of
theirs.
-/
namespace JournalSearch.Query

variable {α : Type} {f : Test → Option α} {qs : List Query}

theorem collectAll_eq_flatMap (f : Test → Option α) (qs : List Query) :
    collectAll f qs = qs.flatMap (collect f) := by
  induction qs with
  | nil => rfl
  | cons q qs ih => rw [collectAll, ih, List.flatMap_cons]

theorem collectAll_append (f : Test → Option α) (qs rs : List Query) :
    collectAll f (qs ++ rs) = collectAll f qs ++ collectAll f rs := by
  simp only [collectAll_eq_flatMap, List.flatMap_append]

theorem mem_collectAll {a : α} : a ∈ collectAll f qs ↔ ∃ q ∈ qs, a ∈ q.collect f := by
  rw [collectAll_eq_flatMap, List.mem_flatMap]

theorem collectAll_eq_nil (h : ∀ q ∈ qs, q.collect f = []) : collectAll f qs = [] := by
  rw [collectAll_eq_flatMap]
  exact List.flatMap_eq_nil_iff.mpr h

/-- Terms that say nothing can be left out. -/
theorem collectAll_filter {keep : Query → Bool}
    (h : ∀ q ∈ qs, keep q = false → q.collect f = []) :
    collectAll f (qs.filter keep) = collectAll f qs := by
  induction qs with
  | nil => rfl
  | cons q qs ih =>
    obtain ⟨hq, hrest⟩ := List.forall_mem_cons.mp h
    cases hkeep : keep q with
    | true => rw [List.filter_cons_of_pos hkeep, collectAll, collectAll, ih hrest]
    | false =>
      rw [List.filter_cons_of_neg (by simp [hkeep]), ih hrest, collectAll, hq hkeep,
        List.nil_append]

theorem collect_of_choose? {kind : Query → Bool} (hkind : ∀ q, kind q = true → q.collect f = [])
    {q : Query} (hq : choose? (qs.filter kind) = some q) : q.collect f = [] := by
  have hterm : ∀ r ∈ qs.filter kind, r.collect f = [] :=
    fun r hr => hkind r (List.mem_filter.mp hr).2
  rcases mem_or_eq_of_choose? hq with hmem | rfl
  · exact hterm q hmem
  · rw [collect]
    exact collectAll_eq_nil hterm

theorem mem_collectAll_of_same {q : Query} (hq : q ∈ qs) (hsame : ∀ r ∈ qs, r = q) {a : α} :
    a ∈ collectAll f qs ↔ a ∈ q.collect f := by
  rw [mem_collectAll]
  constructor
  · rintro ⟨r, hr, ha⟩
    rwa [hsame r hr] at ha
  · exact fun ha => ⟨q, hq, ha⟩

theorem head?_collectAll_of_same {q : Query} (hsame : ∀ r ∈ qs, r = q) :
    (collectAll f (q :: qs)).head? = (q.collect f).head? := by
  by_cases hnil : q.collect f = []
  · rw [collectAll_eq_nil, hnil]
    rw [List.forall_mem_cons]
    exact ⟨hnil, fun r hr => hsame r hr ▸ hnil⟩
  · rw [collectAll, List.head?_append_of_ne_nil _ hnil]

section
variable (hdate : ∀ span, f (.date span) = none)
include hdate

theorem collect_of_isDate {q : Query} (hq : q.isDate = true) : q.collect f = [] := by
  obtain ⟨span, rfl⟩ := isDate_iff.mp hq
  rw [collect, hdate]
  rfl

/-- Joined terms say what they say apart, if tests for dates say nothing. -/
theorem mem_collect_conjoin {a : α} : a ∈ (conjoin qs).collect f ↔ a ∈ collectAll f qs := by
  cases qs with
  | nil => rfl
  | cons q qs =>
    rw [conjoin]
    split_ifs with hsame hdates
    · have hall : ∀ r ∈ q :: qs, r = q := List.forall_mem_cons.mpr ⟨rfl, hsame⟩
      exact (mem_collectAll_of_same List.mem_cons_self hall).symm
    · rw [collect_of_isDate hdate rfl,
        collectAll_eq_nil fun r hr => collect_of_isDate hdate (hdates r hr)]
    · rfl

theorem head?_collect_conjoin :
    ((conjoin qs).collect f).head? = (collectAll f qs).head? := by
  cases qs with
  | nil => rfl
  | cons q qs =>
    rw [conjoin]
    split_ifs with hsame hdates
    · exact (head?_collectAll_of_same hsame).symm
    · rw [collect_of_isDate hdate rfl,
        collectAll_eq_nil fun r hr => collect_of_isDate hdate (hdates r hr)]
    · rfl

end

section
variable {field : DateField}

theorem startDate_anyOf_eq_none (h : ∀ q ∈ qs, q.startDate field = none) :
    startDate field (anyOf qs) = none := by
  cases qs with
  | nil => rfl
  | cons q qs =>
    refine Calendar.earliest_eq_none_of_mem (mem_startDates.mpr ?_)
    exact ⟨q, List.mem_cons_self, h q List.mem_cons_self⟩

theorem startDate_of_choose? {kind : Query → Bool}
    (hkind : ∀ q, kind q = true → q.startDate field = none) {q : Query}
    (hq : choose? (qs.filter kind) = some q) : q.startDate field = none := by
  have hterm : ∀ r ∈ qs.filter kind, r.startDate field = none :=
    fun r hr => hkind r (List.mem_filter.mp hr).2
  rcases mem_or_eq_of_choose? hq with hmem | rfl
  · exact hterm q hmem
  · exact startDate_anyOf_eq_none hterm

/-- Joined terms start when the last of them does. -/
theorem startDate_conjoin (qs : List Query) :
    (conjoin qs).startDate field = startDate field (allOf qs) := by
  cases qs with
  | nil => rfl
  | cons q qs =>
    rw [conjoin]
    split_ifs with hsame hdates
    · have hall : ∀ r ∈ q :: qs, r = q := List.forall_mem_cons.mpr ⟨rfl, hsame⟩
      exact (startDate_allOf_of_same List.mem_cons_self hall).symm
    · rw [← startDate_allOf_dates, map_filterMap_dateSpan? _ hdates]
    · rfl

end

end JournalSearch.Query
