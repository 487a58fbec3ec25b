import JournalSearch.Unicode.LowerText
import Mathlib.Tactic.SplitIfs

/-!
Texts that lower case leaves alone. The table of capitals begins with those of ASCII and goes on
past its end, so that the other characters of ASCII are their own lower case. No capital is mapped
to what comes before the small letters of ASCII, so that the characters there are the lower case of
themselves only.
-/
namespace JournalSearch.Unicode

/-- A character of ASCII that is no capital. -/
def IsUncased (c : Char) : Prop := c.toNat < 0x80 ∧ (c.toNat < 0x41 ∨ 0x5a < c.toNat)

instance (c : Char) : Decidable (IsUncased c) := inferInstanceAs (Decidable (_ ∧ _))

theorem lowerCode_eq_self {code : Nat} (hascii : code < 0x80)
    (hcapital : code < 0x41 ∨ 0x5a < code) : lowerCode code = code := by
  rw [lowerCode, lowerRuns, mapCase]
  rcases hcapital with hbelow | habove
  · rw [if_pos hbelow]
  · rw [if_neg (by simp only; omega), if_neg (by simp only; omega), mapCase,
      if_pos (by simp only; omega)]

/-- A code point is mapped by none of the runs, or as far as one of them says. -/
theorem mapCase_eq_or (code : Nat) (runs : List CaseRun) :
    mapCase code runs = code ∨ ∃ run ∈ runs, run.first ≤ code ∧
      mapCase code runs = ((code : Int) + run.offset).toNat := by
  induction runs with
  | nil => exact Or.inl rfl
  | cons run runs ih =>
    rw [mapCase]
    split_ifs with hbelow hwithin hstep
    · exact Or.inl rfl
    · exact Or.inr ⟨run, List.mem_cons_self, Nat.not_lt.mp hbelow, rfl⟩
    · exact Or.inl rfl
    · rcases ih with hsame | ⟨other, hother, hmapped⟩
      · exact Or.inl hsame
      · exact Or.inr ⟨other, List.mem_cons_of_mem _ hother, hmapped⟩

theorem eq_of_lowerCode_eq {code low : Nat} (h : lowerCode code = low) (hlow : low < 0x61) :
    code = low := by
  have hruns : ∀ run ∈ lowerRuns, 0x61 ≤ (run.first : Int) + run.offset := by
    decide +kernel
  rcases mapCase_eq_or code lowerRuns with hsame | ⟨run, hrun, hfirst, hmapped⟩
  · exact hsame.symm.trans h
  · have hbound := hruns run hrun
    rw [lowerCode, hmapped] at h
    omega

theorem lowerChar_eq_self (before after : List Char) {c : Char} (h : IsUncased c) :
    lowerChar before after c = [c] := by
  obtain ⟨hascii, hcapital⟩ := h
  have hne : ∀ d : Char, 0x80 ≤ d.toNat → c ≠ d := by
    rintro d hd rfl
    omega
  rw [lowerChar, if_neg (hne 'Σ' (by decide)), if_neg (hne 'İ' (by decide)),
    lowerCode_eq_self hascii hcapital, Char.ofNat_toNat]

theorem lowerText_eq_self {text : List Char} (h : ∀ c ∈ text, IsUncased c) :
    lowerText text = text := by
  have hafter : ∀ before, lowerAfter before text = text := by
    induction text with
    | nil => exact fun _ => rfl
    | cons c cs ih =>
      obtain ⟨hc, hcs⟩ := List.forall_mem_cons.mp h
      intro before
      rw [lowerAfter, lowerChar_eq_self before cs hc, ih hcs, List.singleton_append]
  exact hafter []

end JournalSearch.Unicode
