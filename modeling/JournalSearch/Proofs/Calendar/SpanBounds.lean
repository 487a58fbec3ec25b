import JournalSearch.Proofs.Calendar.SpanAlgebra

/-!
Bounds of intersections and hulls. A bound of an intersection is at least as narrow as that of each
span, and missing only if all miss it; a bound of a hull is at least as wide as that of each span,
and missing if one misses it. The two agree only where all spans do. The earliest of several dates
has come by a day when one of them has, and the latest when all have.
-/
namespace JournalSearch.Calendar

section
variable {α β : Type} [LinearOrder α] {bound : β → Option α}

/-- A bound that is set stays set when others are merged into it, and only gets later. -/
theorem exists_le_of_foldl_merge (items : List β) (start : Option α) {a : α}
    (ha : start = some a ∨ ∃ item ∈ items, bound item = some a) :
    ∃ b, items.foldl (fun found item => found.merge max (bound item)) start = some b ∧ a ≤ b := by
  induction items generalizing start a with
  | nil =>
    rcases ha with rfl | ⟨item, hitem, -⟩
    · exact ⟨a, rfl, le_rfl⟩
    · cases hitem
  | cons item items ih =>
    have hfirst : ∀ c, start.merge max (bound item) = some c → a ≤ c →
        ∃ b, (item :: items).foldl (fun found item => found.merge max (bound item)) start =
          some b ∧ a ≤ b := by
      intro c hc hac
      obtain ⟨b, hb, hcb⟩ := ih (start.merge max (bound item)) (Or.inl hc)
      exact ⟨b, hb, hac.trans hcb⟩
    rcases ha with rfl | ⟨other, hother, hbound⟩
    · cases hitem : bound item with
      | none => exact hfirst a (by rw [hitem]; rfl) le_rfl
      | some d => exact hfirst (max a d) (by rw [hitem]; rfl) (le_max_left a d)
    · rcases List.mem_cons.mp hother with rfl | hrest
      · cases start with
        | none => exact hfirst a (by rw [hbound]; rfl) le_rfl
        | some d => exact hfirst (max d a) (by rw [hbound]; rfl) (le_max_right d a)
      · exact ih _ (Or.inr ⟨other, hrest, hbound⟩)

/-- A bound that is left when all have to be set is no later than any of them. -/
theorem le_of_foldl_both (items : List β) (start : Option α) {a : α}
    (ha : items.foldl (fun found item => do return min (← found) (← bound item)) start = some a) :
    (∃ b, start = some b ∧ a ≤ b) ∧ ∀ item ∈ items, ∃ b, bound item = some b ∧ a ≤ b := by
  induction items generalizing start with
  | nil => exact ⟨⟨a, ha, le_rfl⟩, List.forall_mem_nil _⟩
  | cons item items ih =>
    obtain ⟨⟨c, hc, hac⟩, hrest⟩ := ih _ ha
    simp only [Option.bind_eq_bind, Option.pure_def, Option.bind_eq_some_iff,
      Option.some.injEq] at hc
    obtain ⟨b, hstart, d, hitem, rfl⟩ := hc
    refine ⟨⟨b, hstart, hac.trans (min_le_left b d)⟩, ?_⟩
    exact List.forall_mem_cons.mpr ⟨⟨d, hitem, hac.trans (min_le_right b d)⟩, hrest⟩

/-- If the latest and the earliest of several bounds are the same, all of them are. -/
theorem bound_eq_of_foldl_eq {first : β} {items : List β} {common : Option α}
    (hlate : (first :: items).foldl (fun found item => found.merge max (bound item)) none = common)
    (hearly : items.foldl (fun found item => do return min (← found) (← bound item))
      (bound first) = common) :
    ∀ item ∈ first :: items, bound item = common := by
  intro item hitem
  have hset : ∀ a, bound item = some a → ∃ b, common = some b ∧ a ≤ b := by
    intro a ha
    rw [← hlate]
    exact exists_le_of_foldl_merge _ _ (Or.inr ⟨item, hitem, ha⟩)
  cases common with
  | none =>
    cases hbound : bound item with
    | none => rfl
    | some a =>
      obtain ⟨b, hb, -⟩ := hset a hbound
      cases hb
  | some b =>
    obtain ⟨hfirst, hrest⟩ := le_of_foldl_both items (bound first) hearly
    have hall : ∀ item ∈ first :: items, ∃ a, bound item = some a ∧ b ≤ a :=
      List.forall_mem_cons.mpr ⟨hfirst, hrest⟩
    obtain ⟨a, ha, hba⟩ := hall item hitem
    obtain ⟨c, hc, hac⟩ := hset a ha
    cases hc
    rw [ha, hac.antisymm hba]

end

namespace Span

theorem start_interAll (spans : List Span) :
    (interAll spans).start = spans.foldl (fun found s => found.merge max s.start) none :=
  (List.foldl_hom Span.start fun _ _ => rfl).symm

theorem finish_interAll (spans : List Span) :
    (interAll spans).finish = spans.foldl (fun found s => found.merge min s.finish) none :=
  (List.foldl_hom Span.finish fun _ _ => rfl).symm

theorem start_hullAll (s : Span) (spans : List Span) :
    (hullAll (s :: spans)).start =
      spans.foldl (fun found t => do return min (← found) (← t.start)) s.start :=
  (List.foldl_hom Span.start fun _ _ => rfl).symm

theorem finish_hullAll (s : Span) (spans : List Span) :
    (hullAll (s :: spans)).finish =
      spans.foldl (fun found t => do return max (← found) (← t.finish)) s.finish :=
  (List.foldl_hom Span.finish fun _ _ => rfl).symm

@[simp]
theorem unbounded_inter (s : Span) : unbounded.inter s = s := by
  obtain ⟨start, finish⟩ := s
  cases start <;> cases finish <;> rfl

@[simp]
theorem inter_unbounded (s : Span) : s.inter unbounded = s := by
  obtain ⟨start, finish⟩ := s
  cases start <;> cases finish <;> rfl

/-- The intersection of some spans, if there are any, has what all of them have, also if the open
span has it not. -/
theorem interAll_cons_eq_all (P : Span → Bool) (hinter : ∀ a b, P (a.inter b) = (P a && P b))
    (s : Span) (spans : List Span) : P (interAll (s :: spans)) = (s :: spans).all P := by
  rw [interAll, List.foldl_cons, unbounded_inter, foldl_inter_eq_all P hinter, List.all_cons]

/-- Spans that are open at both ends take nothing from an intersection. -/
theorem interAll_filter_ne_unbounded (spans : List Span) :
    interAll (spans.filter (· ≠ unbounded)) = interAll spans := by
  rw [interAll, List.foldl_filter, interAll]
  congr 1
  funext found s
  by_cases hopen : s = unbounded
  · rw [hopen, inter_unbounded]
    simp
  · simp [hopen]

@[simp]
theorem inter_self (s : Span) : s.inter s = s := by
  obtain ⟨start, finish⟩ := s
  cases start <;> cases finish <;> simp [inter]

@[simp]
theorem hull_self (s : Span) : s.hull s = s := by
  obtain ⟨start, finish⟩ := s
  cases start <;> cases finish <;> simp [hull]

theorem foldl_eq_of_forall_eq {join : Span → Span → Span} {s : Span} (hjoin : join s s = s)
    {spans : List Span} (h : ∀ t ∈ spans, t = s) : spans.foldl join s = s := by
  induction spans with
  | nil => rfl
  | cons t spans ih =>
    obtain ⟨rfl, hrest⟩ := List.forall_mem_cons.mp h
    rw [List.foldl_cons, hjoin]
    exact ih hrest

theorem interAll_of_forall_eq {s : Span} {spans : List Span} (hs : s ∈ spans)
    (h : ∀ t ∈ spans, t = s) : interAll spans = s := by
  cases spans with
  | nil => cases hs
  | cons first spans =>
    obtain ⟨rfl, hrest⟩ := List.forall_mem_cons.mp h
    rw [interAll, List.foldl_cons, unbounded_inter, foldl_eq_of_forall_eq (inter_self first) hrest]

theorem hullAll_of_forall_eq {s : Span} {spans : List Span} (hs : s ∈ spans)
    (h : ∀ t ∈ spans, t = s) : hullAll spans = s := by
  cases spans with
  | nil => cases hs
  | cons first spans =>
    obtain ⟨rfl, hrest⟩ := List.forall_mem_cons.mp h
    rw [hullAll, foldl_eq_of_forall_eq (hull_self first) hrest]

/-- The intersection of spans is their hull exactly if they are all the same. -/
theorem interAll_eq_hullAll_iff (spans : List Span) :
    interAll spans = hullAll spans ↔ ∀ s ∈ spans, ∀ t ∈ spans, s = t := by
  cases spans with
  | nil => simp [interAll, hullAll]
  | cons first spans =>
    constructor
    · intro h
      have hsame : ∀ s ∈ first :: spans, s = interAll (first :: spans) := by
        intro s hs
        have hstart : s.start = (interAll (first :: spans)).start :=
          bound_eq_of_foldl_eq (start_interAll _).symm
            ((start_hullAll first spans).symm.trans (by rw [h])) s hs
        -- The earlier finish is the later one in the dual order.
        have hfinish : s.finish = (interAll (first :: spans)).finish :=
          bound_eq_of_foldl_eq (α := OrderDual Date) (finish_interAll _).symm
            ((finish_hullAll first spans).symm.trans (by rw [h])) s hs
        generalize interAll (first :: spans) = common at hstart hfinish ⊢
        obtain ⟨start, finish⟩ := s
        obtain ⟨start', finish'⟩ := common
        cases hstart
        cases hfinish
        rfl
      intro s hs t ht
      rw [hsame s hs, hsame t ht]
    · intro h
      have hsame : ∀ t ∈ first :: spans, t = first := fun t ht => h t ht first List.mem_cons_self
      rw [interAll_of_forall_eq List.mem_cons_self hsame,
        hullAll_of_forall_eq List.mem_cons_self hsame]

end Span

/-! The earliest and the latest of several dates -/

theorem earliest_cons {date? : Option Date} {dates : List (Option Date)} (hne : dates ≠ []) :
    earliest (date? :: dates) = do return min (← date?) (← earliest dates) := by
  cases dates with
  | nil => exact absurd rfl hne
  | cons second dates => rfl

/-- The earliest of several dates has come when one of them has. -/
theorem earliest_le_iff {dates : List (Option Date)} (hne : dates ≠ []) (day : Date) :
    (∀ first ∈ earliest dates, first ≤ day) ↔
      ∃ date? ∈ dates, ∀ first ∈ date?, first ≤ day := by
  induction dates with
  | nil => exact absurd rfl hne
  | cons date? dates ih =>
    by_cases hnil : dates = []
    · subst hnil
      simp [earliest]
    · rw [earliest_cons hnil, List.exists_mem_cons_iff, ← ih hnil]
      cases date? <;> cases earliest dates <;> simp

theorem earliest_eq_none_of_mem {dates : List (Option Date)} (h : none ∈ dates) :
    earliest dates = none := by
  cases hfound : earliest dates with
  | none => rfl
  | some first =>
    obtain ⟨day, hday, -⟩ := exists_le_of_earliest hfound none h
    cases hday

theorem earliest_of_forall_eq {date? : Option Date} {dates : List (Option Date)}
    (hmem : date? ∈ dates) (h : ∀ other ∈ dates, other = date?) : earliest dates = date? := by
  induction dates with
  | nil => cases hmem
  | cons first dates ih =>
    obtain ⟨rfl, hrest⟩ := List.forall_mem_cons.mp h
    by_cases hnil : dates = []
    · rw [hnil]
      rfl
    · obtain ⟨other, hother⟩ := List.exists_mem_of_ne_nil dates hnil
      obtain rfl := hrest other hother
      rw [earliest_cons hnil, ih hother hrest]
      cases other <;> simp

/-- The latest of several dates has come when all of them have. -/
theorem latest_le_iff (dates : List (Option Date)) (day : Date) :
    (∀ last ∈ latest dates, last ≤ day) ↔ ∀ date? ∈ dates, ∀ last ∈ date?, last ≤ day := by
  induction dates with
  | nil => simp [latest]
  | cons date? dates ih =>
    rw [latest, List.foldr_cons, Span.forall_mem_merge_max, List.forall_mem_cons, ← ih, latest]

theorem latest_eq_none_iff (dates : List (Option Date)) :
    latest dates = none ↔ ∀ date? ∈ dates, date? = none := by
  induction dates with
  | nil => simp [latest]
  | cons date? dates ih =>
    rw [latest, List.foldr_cons, Option.merge_eq_none_iff, List.forall_mem_cons, ← ih, latest]

theorem latest_eq_some_iff {dates : List (Option Date)} {last : Date} :
    latest dates = some last ↔ some last ∈ dates ∧ ∀ day, some day ∈ dates → day ≤ last := by
  have hbound : ∀ found, latest dates = some found → ∀ day, some day ∈ dates → day ≤ found := by
    intro found hfound day hday
    refine (latest_le_iff dates found).mp (fun last hlast => ?_) _ hday day rfl
    rw [hfound] at hlast
    cases hlast
    exact le_refl found
  refine ⟨fun h => ⟨mem_of_latest h, hbound last h⟩, fun ⟨hmem, hlast⟩ => ?_⟩
  cases hfound : latest dates with
  | none => cases (latest_eq_none_iff dates).mp hfound _ hmem
  | some found =>
    have hle := hlast found (mem_of_latest hfound)
    rw [le_antisymm hle (hbound found hfound last hmem)]

/-- Dates that are missing, their order and their number make no difference. -/
theorem latest_congr {dates dates' : List (Option Date)}
    (h : ∀ day, some day ∈ dates ↔ some day ∈ dates') : latest dates = latest dates' := by
  apply Option.ext
  intro last
  rw [latest_eq_some_iff, latest_eq_some_iff]
  simp only [h]

theorem latest_of_forall_eq {date? : Option Date} {dates : List (Option Date)}
    (hmem : date? ∈ dates) (h : ∀ other ∈ dates, other = date?) : latest dates = date? := by
  have hone : latest [date?] = date? := by simp [latest]
  rw [← hone]
  refine latest_congr fun day => ⟨fun hday => ?_, fun hday => ?_⟩
  · rw [h _ hday]
    exact List.mem_cons_self
  · rw [List.mem_singleton.mp hday]
    exact hmem

/-- An intersection starts when the last of the spans does. -/
theorem latest_starts (spans : List Span) :
    latest (spans.map Span.start) = (Span.interAll spans).start := by
  rw [latest, List.foldr_eq_foldl, List.foldl_map, Span.start_interAll]

end JournalSearch.Calendar
