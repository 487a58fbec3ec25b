import JournalSearch.Unicode.CharClass
import Mathlib.Data.List.Chain

/-!
Decimal digits among the other characters. The digits of every script are characters of words, and
none of them is white space. Both are seen in the tables, of which those of ranges are ascending.
-/
namespace JournalSearch.Unicode

variable {c : Char} {digit : Nat}

theorem exists_start_of_digitValue? (h : digitValue? c = some digit) :
    ∃ start ∈ zeros, start ≤ c.toNat ∧ c.toNat ≤ start + 9 := by
  obtain ⟨start, hfind, -⟩ := Option.map_eq_some_iff.mp h
  have hmem := List.mem_of_find?_eq_some hfind
  have hrange := List.find?_some hfind
  simp only [Bool.and_eq_true, decide_eq_true_eq] at hrange
  exact ⟨start, hmem, hrange⟩

theorem inRanges_iff_of_isChain {code : Nat} {ranges : List (Nat × Nat)}
    (h : ranges.IsChain fun r s => r.1 ≤ s.1) :
    inRanges code ranges = true ↔ ∃ r ∈ ranges, r.1 ≤ code ∧ code ≤ r.2 := by
  have htrans : IsTrans (Nat × Nat) fun r s => r.1 ≤ s.1 := ⟨fun _ _ _ => Nat.le_trans⟩
  exact inRanges_iff (List.isChain_iff_pairwise.mp h)

theorem spaceRanges_isChain : spaceRanges.IsChain fun r s => r.1 ≤ s.1 := by
  decide

theorem alphanumericRanges_isChain : alphanumericRanges.IsChain fun r s => r.1 ≤ s.1 := by
  decide +kernel

theorem zeros_apart_spaceRanges :
    ∀ start ∈ zeros, ∀ r ∈ spaceRanges, r.2 < start ∨ start + 9 < r.1 := by
  decide

theorem zeros_within_alphanumericRanges :
    ∀ start ∈ zeros, ∃ r ∈ alphanumericRanges, r.1 ≤ start ∧ start + 9 ≤ r.2 := by
  have hany : ∀ start ∈ zeros, alphanumericRanges.any fun r =>
      Nat.ble r.1 start && Nat.ble (start + 9) r.2 := by
    decide +kernel
  intro start hstart
  obtain ⟨r, hr, hwithin⟩ := List.any_eq_true.mp (hany start hstart)
  simp only [Bool.and_eq_true, Nat.ble_eq] at hwithin
  exact ⟨r, hr, hwithin⟩

theorem isSpace_eq_false_of_digitValue? (h : digitValue? c = some digit) : isSpace c = false := by
  obtain ⟨start, hstart, hlo, hhi⟩ := exists_start_of_digitValue? h
  by_contra hspace
  rw [Bool.not_eq_false, isSpace, inRanges_iff_of_isChain spaceRanges_isChain] at hspace
  obtain ⟨r, hr, hrlo, hrhi⟩ := hspace
  have hapart := zeros_apart_spaceRanges start hstart r hr
  omega

theorem isWord_of_digitValue? (h : digitValue? c = some digit) : isWord c = true := by
  obtain ⟨start, hstart, hlo, hhi⟩ := exists_start_of_digitValue? h
  obtain ⟨r, hr, hrlo, hrhi⟩ := zeros_within_alphanumericRanges start hstart
  have halnum : isAlphanumeric c = true := by
    rw [isAlphanumeric, inRanges_iff_of_isChain alphanumericRanges_isChain]
    exact ⟨r, hr, by omega, by omega⟩
  rw [isWord, halnum, Bool.or_true]

theorem digitValue?_of_isDigit (h : c.isDigit = true) :
    digitValue? c = some (c.toNat - '0'.toNat) := by
  obtain ⟨hlo, hhi⟩ := Char.isDigit_iff_toNat.mp h
  have hfind : zeros.find? (fun start => start ≤ c.toNat && c.toNat ≤ start + 9) = some 0x30 := by
    refine List.find?_cons_of_pos ?_
    simpa using And.intro hlo hhi
  rw [digitValue?, hfind]
  rfl

end JournalSearch.Unicode
