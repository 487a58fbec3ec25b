import JournalSearch.Proofs.Calendar.SpanBounds
import Mathlib.Data.Multiset.Fold
import Mathlib.Data.Option.NAry

/-!
Intersections and hulls of any number of spans. Each bound of a hull is that of one of the spans,
and a span that has a day has all days from there to its bounds; so what covers all spans covers
their hull, as long as none of them is empty. Both operations are commutative, associative and
idempotent, so that neither the order of the spans nor their number makes a difference.
-/
namespace JournalSearch.Calendar

/-- What a commutative, associative and idempotent operation joins may come in any order and
number. -/
theorem foldl_eq_of_mem_iff {α : Type} [DecidableEq α] {op : α → α → α} [Std.Commutative op]
    [Std.Associative op] [Std.IdempotentOp op] {as bs : List α} (h : ∀ a, a ∈ as ↔ a ∈ bs)
    (start : α) : as.foldl op start = bs.foldl op start := by
  have hdedup : Multiset.dedup (as : Multiset α) = Multiset.dedup (bs : Multiset α) := by
    rw [Multiset.dedup_ext]
    simpa using h
  calc as.foldl op start
      = (Multiset.dedup (as : Multiset α)).fold op start := by
        rw [Multiset.fold_dedup_idem, Multiset.coe_fold_l]
    _ = bs.foldl op start := by
        rw [hdedup, Multiset.fold_dedup_idem, Multiset.coe_fold_l]

namespace Span

variable {s t : Span} {spans spans' : List Span} {day : Date}

/-! Order and number -/

instance : Std.Commutative inter where
  comm a b := congrArg₂ mk ((Option.commutative_merge max).comm a.start b.start)
    ((Option.commutative_merge min).comm a.finish b.finish)

instance : Std.Associative inter where
  assoc a b c := congrArg₂ mk ((Option.associative_merge max).assoc a.start b.start c.start)
    ((Option.associative_merge min).assoc a.finish b.finish c.finish)

instance : Std.IdempotentOp inter := ⟨inter_self⟩

theorem hull_eq_map₂ (a b : Span) :
    a.hull b = ⟨Option.map₂ min a.start b.start, Option.map₂ max a.finish b.finish⟩ := by
  obtain ⟨start, finish⟩ := a
  obtain ⟨start', finish'⟩ := b
  cases start <;> cases start' <;> cases finish <;> cases finish' <;> rfl

theorem hull_comm (a b : Span) : a.hull b = b.hull a := by
  rw [hull_eq_map₂, hull_eq_map₂, Option.map₂_comm min_comm, Option.map₂_comm max_comm]

theorem hull_assoc (a b c : Span) : (a.hull b).hull c = a.hull (b.hull c) := by
  simp only [hull_eq_map₂]
  rw [Option.map₂_assoc min_assoc, Option.map₂_assoc max_assoc]

instance : Std.Commutative hull := ⟨hull_comm⟩

instance : Std.Associative hull := ⟨hull_assoc⟩

instance : Std.IdempotentOp hull := ⟨hull_self⟩

/-- A hull can be built up from any of the spans. -/
theorem hullAll_eq_foldl (hs : s ∈ spans) : hullAll spans = spans.foldl hull s := by
  cases spans with
  | nil => cases hs
  | cons first rest =>
    have hmem : ∀ t, t ∈ first :: rest ↔ t ∈ s :: first :: rest := by
      intro t
      simp only [List.mem_cons (a := t) (b := s), iff_or_self]
      rintro rfl
      exact hs
    calc hullAll (first :: rest)
        = (first :: rest).foldl hull first := by
          rw [hullAll, List.foldl_cons, hull_self]
      _ = (s :: first :: rest).foldl hull first := foldl_eq_of_mem_iff hmem first
      _ = (first :: rest).foldl hull s := by
          rw [List.foldl_cons, List.foldl_cons, List.foldl_cons, hull_comm first s, hull_assoc,
            hull_self]

theorem interAll_eq_of_mem_iff (h : ∀ s, s ∈ spans ↔ s ∈ spans') :
    interAll spans = interAll spans' :=
  foldl_eq_of_mem_iff h unbounded

theorem hullAll_eq_of_mem_iff (h : ∀ s, s ∈ spans ↔ s ∈ spans') :
    hullAll spans = hullAll spans' := by
  by_cases hnil : spans = []
  · subst hnil
    rw [List.eq_nil_iff_forall_not_mem.mpr fun s hs => List.not_mem_nil ((h s).mpr hs)]
  · obtain ⟨s, hs⟩ := List.exists_mem_of_ne_nil spans hnil
    rw [hullAll_eq_foldl hs, hullAll_eq_foldl ((h s).mp hs)]
    exact foldl_eq_of_mem_iff h s

/-! Days -/

def Covers (t s : Span) : Prop := ∀ day, s.contains day = true → t.contains day = true

/-- What covers a span with a day starts no later than the span. -/
theorem Covers.start_le (h : t.Covers s) (hs : ∃ day, s.contains day = true)
    (hday : ∀ first ∈ s.start, first ≤ day) : ∀ first ∈ t.start, first ≤ day := by
  obtain ⟨inside, hinside⟩ := hs
  rcases le_total day inside with hle | hge
  · have hstop := ((contains_iff s inside).mp hinside).2
    have hcontains := (contains_iff s day).mpr
      ⟨hday, fun stop hmem => hle.trans_lt (hstop stop hmem)⟩
    exact ((contains_iff t day).mp (h day hcontains)).1
  · intro first hfirst
    exact (((contains_iff t inside).mp (h inside hinside)).1 first hfirst).trans hge

/-- What covers a span with a day finishes no earlier than the span. -/
theorem Covers.lt_finish (h : t.Covers s) (hs : ∃ day, s.contains day = true)
    (hday : ∀ stop ∈ s.finish, day < stop) : ∀ stop ∈ t.finish, day < stop := by
  obtain ⟨inside, hinside⟩ := hs
  rcases le_total inside day with hle | hge
  · have hstart := ((contains_iff s inside).mp hinside).1
    have hcontains := (contains_iff s day).mpr
      ⟨fun first hmem => (hstart first hmem).trans hle, hday⟩
    exact ((contains_iff t day).mp (h day hcontains)).2
  · intro stop hstop
    exact hge.trans_lt (((contains_iff t inside).mp (h inside hinside)).2 stop hstop)

/-- A bound that a hull has from one of two spans, the hull of several has from one of them. -/
theorem exists_bound_eq_hullAll {bound : Span → Option Date}
    (hbound : ∀ a b, bound (a.hull b) = bound a ∨ bound (a.hull b) = bound b) (hne : spans ≠ []) :
    ∃ s ∈ spans, bound s = bound (hullAll spans) := by
  obtain ⟨first, rest, rfl⟩ := List.exists_cons_of_ne_nil hne
  rw [hullAll]
  clear hne
  induction rest generalizing first with
  | nil => exact ⟨first, List.mem_cons_self, rfl⟩
  | cons second rest ih =>
    obtain ⟨s, hs, heq⟩ := ih (first.hull second)
    rcases List.mem_cons.mp hs with rfl | hrest
    · rcases hbound first second with hfirst | hsecond
      · exact ⟨first, List.mem_cons_self, hfirst.symm.trans heq⟩
      · exact ⟨second, List.mem_cons_of_mem _ List.mem_cons_self, hsecond.symm.trans heq⟩
    · exact ⟨s, List.mem_cons_of_mem _ (List.mem_cons_of_mem _ hrest), heq⟩

theorem start_hull_or (a b : Span) : (a.hull b).start = a.start ∨ (a.hull b).start = b.start := by
  obtain ⟨start, finish⟩ := a
  obtain ⟨start', finish'⟩ := b
  cases start <;> cases start' <;> simp [hull, le_total]

theorem finish_hull_or (a b : Span) :
    (a.hull b).finish = a.finish ∨ (a.hull b).finish = b.finish := by
  obtain ⟨start, finish⟩ := a
  obtain ⟨start', finish'⟩ := b
  cases finish <;> cases finish' <;> simp [hull, le_total]

/-- What covers several spans with days covers their hull. -/
theorem covers_hullAll (hne : spans ≠ []) (hdays : ∀ s ∈ spans, ∃ day, s.contains day = true)
    (hcovers : ∀ s ∈ spans, t.Covers s) : t.Covers (hullAll spans) := by
  intro day hday
  rw [contains_iff] at hday ⊢
  obtain ⟨early, hearly, hstart⟩ := exists_bound_eq_hullAll start_hull_or hne
  obtain ⟨late, hlate, hfinish⟩ := exists_bound_eq_hullAll finish_hull_or hne
  rw [← hstart, ← hfinish] at hday
  exact ⟨(hcovers early hearly).start_le (hdays early hearly) hday.1,
    (hcovers late hlate).lt_finish (hdays late hlate) hday.2⟩

/-- A day lies in the intersection of spans exactly if it lies in all of them. The hull covers each
span, and if all of them have days, whatever covers each of them covers the hull. Both depend on
nothing but which spans there are. -/
theorem interAll_hullAll_spec (spans : List Span) :
    (∀ day, (interAll spans).contains day = true ↔ ∀ s ∈ spans, s.contains day = true) ∧
      (∀ s ∈ spans, (hullAll spans).Covers s) ∧
      (spans ≠ [] → (∀ s ∈ spans, ∃ day, s.contains day = true) →
        ∀ t : Span, (∀ s ∈ spans, t.Covers s) → t.Covers (hullAll spans)) ∧
      ∀ spans' : List Span, (∀ s, s ∈ spans ↔ s ∈ spans') →
        interAll spans = interAll spans' ∧ hullAll spans = hullAll spans' := by
  refine ⟨fun day => ?_, fun s hs day hday => ?_, fun hne hdays t => ?_, fun spans' hmem => ?_⟩
  · rw [interAll_eq_all (fun s => s.contains day) (contains_unbounded day)
      (fun a b => contains_inter a b day), List.all_eq_true]
  · exact contains_hullAll (Or.inr ⟨s, hs, hday⟩)
  · exact covers_hullAll hne hdays
  · exact ⟨interAll_eq_of_mem_iff hmem, hullAll_eq_of_mem_iff hmem⟩

/-- Two spans with a gap between them, and one of them twice. -/
theorem interAll_hullAll_spec_of_gap :
    ∃ early late t : Span,
      early = ⟨none, some ⟨2012, 1, 1, by decide, by decide, by decide⟩⟩ ∧
        late = ⟨some ⟨2012, 2, 29, by decide, by decide, by decide⟩,
          some ⟨2012, 3, 1, by decide, by decide, by decide⟩⟩ ∧
        t = ⟨none, some ⟨2013, 1, 1, by decide, by decide, by decide⟩⟩ ∧
        (∀ s ∈ [early, late], ∃ day, s.contains day = true) ∧
        (∀ s ∈ [early, late], t.Covers s) ∧ t.Covers (hullAll [early, late]) ∧
        (∀ s, s ∈ [early, late] ↔ s ∈ [late, early, late]) ∧
        interAll [early, late] = interAll [late, early, late] ∧
        hullAll [early, late] = hullAll [late, early, late] := by
  obtain ⟨early, hearly⟩ : ∃ s : Span,
      s = ⟨none, some ⟨2012, 1, 1, by decide, by decide, by decide⟩⟩ := ⟨_, rfl⟩
  obtain ⟨late, hlate⟩ : ∃ s : Span,
      s = ⟨some ⟨2012, 2, 29, by decide, by decide, by decide⟩,
        some ⟨2012, 3, 1, by decide, by decide, by decide⟩⟩ := ⟨_, rfl⟩
  obtain ⟨t, ht⟩ : ∃ s : Span,
      s = ⟨none, some ⟨2013, 1, 1, by decide, by decide, by decide⟩⟩ := ⟨_, rfl⟩
  have hdays : ∀ s ∈ [early, late], ∃ day, s.contains day = true := by
    rw [List.forall_mem_cons, List.forall_mem_singleton, hearly, hlate]
    exact ⟨⟨⟨1, 1, 1, by decide, by decide, by decide⟩, by decide⟩,
      ⟨⟨2012, 2, 29, by decide, by decide, by decide⟩, by decide⟩⟩
  have hcovers : ∀ s ∈ [early, late], t.Covers s := by
    intro s hs day hday
    rw [contains_iff] at hday ⊢
    subst ht
    refine ⟨nofun, ?_⟩
    rintro stop ⟨⟩
    rcases List.mem_pair.mp hs with rfl | rfl
    · subst hearly
      exact (hday.2 _ rfl).trans (by decide)
    · subst hlate
      exact (hday.2 _ rfl).trans (by decide)
  have hmem : ∀ s, s ∈ [early, late] ↔ s ∈ [late, early, late] := by
    intro s
    simp only [List.mem_cons, List.not_mem_nil, or_false]
    tauto
  obtain ⟨-, -, hleast, hset⟩ := interAll_hullAll_spec [early, late]
  exact ⟨early, late, t, hearly, hlate, ht, hdays, hcovers,
    hleast (List.cons_ne_nil _ _) hdays t hcovers, hmem, hset _ hmem⟩

end Span

end JournalSearch.Calendar
