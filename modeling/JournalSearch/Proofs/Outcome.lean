import Mathlib.Data.List.Forall2

/-!
Computations that may fail. One after another has a result if each has one, and so does one
computation for each item of a list.
-/
namespace JournalSearch.Outcome

variable {ε α β : Type}

@[simp]
theorem bind_eq_ok_iff {x : Except ε α} {f : α → Except ε β} {b : β} :
    (x >>= f) = .ok b ↔ ∃ a, x = .ok a ∧ f a = .ok b := by
  cases x <;> simp [bind, Except.bind]

@[simp]
theorem pure_eq_ok_iff {a b : α} : (pure a : Except ε α) = .ok b ↔ a = b := by
  simp [pure, Except.pure]

@[simp]
theorem map_eq_ok_iff {x : Except ε α} {f : α → β} {b : β} :
    f <$> x = .ok b ↔ ∃ a, x = .ok a ∧ f a = b := by
  cases x <;> simp [Functor.map, Except.map]

theorem bind_pure_eq_ok_iff {x : Except ε α} {f : α → β} {b : β} :
    (x >>= fun a => pure (f a)) = .ok b ↔ ∃ a, x = .ok a ∧ f a = b := by
  simp

theorem bind_eq_error_iff {x : Except ε α} {f : α → Except ε β} {e : ε} :
    (x >>= f) = .error e ↔ x = .error e ∨ ∃ a, x = .ok a ∧ f a = .error e := by
  cases x <;> simp [bind, Except.bind]

@[simp]
theorem pure_ne_error {a : α} {e : ε} : (pure a : Except ε α) ≠ .error e := nofun

/-- What is made of a result is no reason to fail. -/
@[simp]
theorem map_eq_error_iff {x : Except ε α} {f : α → β} {e : ε} :
    f <$> x = .error e ↔ x = .error e := by
  cases x <;> simp [Functor.map, Except.map]

theorem bind_pure_eq_error_iff {x : Except ε α} {f : α → β} {e : ε} :
    (x >>= fun a => pure (f a)) = .error e ↔ x = .error e := by
  simp

theorem bind_ne_error {x : Except ε α} {f : α → Except ε β} {e : ε} (hx : x ≠ .error e)
    (hf : ∀ a, f a ≠ .error e) : (x >>= f) ≠ .error e := by
  intro h
  rcases bind_eq_error_iff.mp h with hfirst | ⟨a, -, hrest⟩
  · exact hx hfirst
  · exact hf a hrest

/-- To name another reason for a failure changes no result. -/
@[simp]
theorem mapError_eq_ok_iff {ε' : Type} {x : Except ε α} {f : ε → ε'} {a : α} :
    x.mapError f = .ok a ↔ x = .ok a := by
  cases x <;> simp [Except.mapError]

theorem exists_ok_iff {x : Except ε α} : (∃ a, x = .ok a) ↔ ¬∃ e, x = .error e := by
  cases x <;> simp

/-- The results for the items of a list, in order. -/
theorem mapM_eq_ok_iff (f : α → Except ε β) (as : List α) (bs : List β) :
    as.mapM f = .ok bs ↔ List.Forall₂ (fun a b => f a = .ok b) as bs := by
  induction as generalizing bs with
  | nil => rw [List.mapM_nil, pure_eq_ok_iff, List.forall₂_nil_left_iff, eq_comm]
  | cons a as ih =>
    simp only [List.mapM_cons, bind_eq_ok_iff, pure_eq_ok_iff, ih, List.forall₂_cons_left_iff]
    constructor
    · rintro ⟨b, hb, rest, hrest, rfl⟩
      exact ⟨b, rest, hb, hrest, rfl⟩
    · rintro ⟨b, rest, hb, hrest, rfl⟩
      exact ⟨b, hb, rest, hrest, rfl⟩

/-- Each item of the list has a result. -/
theorem exists_mem_of_mapM {f : α → Except ε β} {as : List α} {bs : List β}
    (h : as.mapM f = .ok bs) {a : α} (ha : a ∈ as) : ∃ b ∈ bs, f a = .ok b := by
  rw [mapM_eq_ok_iff] at h
  induction h with
  | nil => cases ha
  | cons hfirst _ ih =>
    rcases List.mem_cons.mp ha with rfl | hrest
    · exact ⟨_, List.mem_cons_self, hfirst⟩
    · obtain ⟨b, hb, hresult⟩ := ih hrest
      exact ⟨b, List.mem_cons_of_mem _ hb, hresult⟩

/-- Each result is that of an item of the list. -/
theorem exists_mem_of_mem_mapM {f : α → Except ε β} {as : List α} {bs : List β}
    (h : as.mapM f = .ok bs) {b : β} (hb : b ∈ bs) : ∃ a ∈ as, f a = .ok b := by
  rw [mapM_eq_ok_iff] at h
  induction h with
  | nil => cases hb
  | cons hfirst _ ih =>
    rcases List.mem_cons.mp hb with rfl | hrest
    · exact ⟨_, List.mem_cons_self, hfirst⟩
    · obtain ⟨a, ha, hresult⟩ := ih hrest
      exact ⟨a, List.mem_cons_of_mem _ ha, hresult⟩

/-- The first item that fails decides with what the list does. -/
theorem mapM_eq_error_iff (f : α → Except ε β) (as : List α) (e : ε) :
    as.mapM f = .error e ↔
      ∃ before a after, as = before ++ a :: after ∧ (∀ b ∈ before, ∃ result, f b = .ok result) ∧
        f a = .error e := by
  induction as with
  | nil => simp [List.mapM_nil]
  | cons first rest ih =>
    rw [List.mapM_cons, bind_eq_error_iff]
    simp only [bind_pure_eq_error_iff, ih]
    constructor
    · rintro (hfirst | ⟨result, hfirst, before, a, after, rfl, hbefore, ha⟩)
      · exact ⟨[], first, rest, rfl, List.forall_mem_nil _, hfirst⟩
      · refine ⟨first :: before, a, after, rfl, ?_, ha⟩
        exact List.forall_mem_cons.mpr ⟨⟨result, hfirst⟩, hbefore⟩
    · rintro ⟨before, a, after, hsplit, hbefore, ha⟩
      cases before with
      | nil =>
        obtain ⟨rfl, rfl⟩ := List.cons.inj hsplit
        exact .inl ha
      | cons b before =>
        obtain ⟨rfl, rfl⟩ := List.cons.inj hsplit
        obtain ⟨⟨result, hfirst⟩, hbefore⟩ := List.forall_mem_cons.mp hbefore
        exact .inr ⟨result, hfirst, before, a, after, rfl, hbefore, ha⟩

/-- A list fails if one of its items does. -/
theorem exists_mapM_eq_error_iff (f : α → Except ε β) (as : List α) :
    (∃ e, as.mapM f = .error e) ↔ ∃ a ∈ as, ∃ e, f a = .error e := by
  constructor
  · rintro ⟨e, h⟩
    obtain ⟨before, a, after, rfl, -, ha⟩ := (mapM_eq_error_iff f as e).mp h
    exact ⟨a, List.mem_append_right _ List.mem_cons_self, e, ha⟩
  · rintro ⟨a, ha, e, hfails⟩
    cases h : as.mapM f with
    | error e => exact ⟨e, rfl⟩
    | ok bs =>
      obtain ⟨b, -, hresult⟩ := exists_mem_of_mapM h ha
      rw [hresult] at hfails
      cases hfails

/-- Optional results for the items of a list, in order. -/
theorem mapM_eq_some_iff (f : α → Option β) (as : List α) (bs : List β) :
    as.mapM f = some bs ↔ List.Forall₂ (fun a b => f a = some b) as bs := by
  induction as generalizing bs with
  | nil => simp [eq_comm]
  | cons a as ih =>
    simp only [List.mapM_cons, Option.bind_eq_bind, Option.bind_eq_some_iff, Option.pure_def,
      Option.some.injEq, ih, List.forall₂_cons_left_iff]
    constructor
    · rintro ⟨b, hb, rest, hrest, rfl⟩
      exact ⟨b, rest, hb, hrest, rfl⟩
    · rintro ⟨b, rest, hb, hrest, rfl⟩
      exact ⟨b, hb, rest, hrest, rfl⟩

end JournalSearch.Outcome
