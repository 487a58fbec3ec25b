import JournalSearch.Proofs.Outcome
import JournalSearch.Text.Basic

/-!
Decimal numerals. The characters that write a number are ASCII digits, and their values are digits
of that number. So an integer is read as it was written, unless its digits are too many, and then
it is refused with their number. No other text is refused.
-/
namespace JournalSearch.Text

open Outcome

/-- The values of characters write the number that the characters do. -/
theorem ofDigits_map_toNat (cs : List Char) :
    ofDigits (cs.map fun c => c.toNat - '0'.toNat) = Nat.ofDigitChars 10 cs 0 := by
  rw [ofDigits, List.foldl_map, Nat.ofDigitChars]

theorem exists_asciiDigits?_toDigits (n : Nat) :
    ∃ digits, asciiDigits? (Nat.toDigits 10 n) = some digits ∧
      digits.length = (Nat.toDigits 10 n).length ∧ ofDigits digits = n := by
  have hall : (Nat.toDigits 10 n).all Char.isDigit = true := by
    rw [List.all_eq_true]
    intro c hc
    exact Nat.isDigit_of_mem_toDigits (by decide) (by decide) hc
  refine ⟨_, if_pos ⟨Nat.toDigits_ne_nil, hall⟩, by rw [List.length_map], ?_⟩
  rw [ofDigits_map_toNat, Nat.ofDigitChars_ten_toDigits]

/-- The digits of a number do not begin with a minus. -/
theorem toDigits_ne_minus_cons (n : Nat) (cs : List Char) : Nat.toDigits 10 n ≠ '-' :: cs := by
  intro hminus
  have hmem : '-' ∈ Nat.toDigits 10 n := by
    rw [hminus]
    exact List.mem_cons_self
  have hdigit := Nat.isDigit_of_mem_toDigits (by decide) (by decide) hmem
  revert hdigit
  decide

/-- An integer of no more digits than can be read is read as it was written. -/
theorem readInt_writeInt (default n : Int) (h : (Nat.toDigits 10 n.natAbs).length ≤ maxDigits) :
    readInt default (writeInt n) = .ok n := by
  obtain ⟨digits, hdigits, hlength, hvalue⟩ := exists_asciiDigits?_toDigits n.natAbs
  have hread : ofDigits? digits = .ok n.natAbs := by
    rw [ofDigits?, hlength, if_neg (Nat.not_lt.mpr h), hvalue]
  cases n with
  | ofNat n =>
    rw [Int.ofNat_eq_natCast, Int.natAbs_natCast] at hdigits hread
    rw [readInt, writeInt, String.toList_ofList]
    split
    · next cs hminus => exact absurd hminus (toDigits_ne_minus_cons n cs)
    · simp only [hdigits, hread]
      rfl
  | negSucc n =>
    rw [Int.natAbs_negSucc] at hdigits hread
    rw [readInt, writeInt, String.toList_ofList]
    simp only [hdigits, hread]
    rfl

theorem ofDigits?_eq_error_iff {digits : List Nat} {e : TooManyDigits} :
    ofDigits? digits = .error e ↔ maxDigits < digits.length ∧ e = ⟨digits.length⟩ := by
  rw [ofDigits?]
  split_ifs with hmany
  · simp [hmany, eq_comm]
  · simp [hmany]

/-- What is read of a run of ASCII digits is not read if they are too many. -/
theorem readDigits_eq_error_iff (default : Int) (sign : Nat → Int) (text : List Char)
    (e : TooManyDigits) :
    (match asciiDigits? text with
      | some digits => do return sign (← ofDigits? digits)
      | none => return default : Except TooManyDigits Int) = .error e ↔
      (∀ c ∈ text, c.isDigit = true) ∧ maxDigits < text.length ∧ e = ⟨text.length⟩ := by
  by_cases hdigits : text ≠ [] ∧ text.all Char.isDigit
  · rw [asciiDigits?, if_pos hdigits]
    simp only [bind_pure_eq_error_iff, ofDigits?_eq_error_iff, List.length_map]
    exact (and_iff_right (List.all_eq_true.mp hdigits.2)).symm
  · rw [asciiDigits?, if_neg hdigits]
    refine iff_of_false pure_ne_error ?_
    rintro ⟨hall, hmany, -⟩
    exact hdigits ⟨List.ne_nil_of_length_pos (by omega), List.all_eq_true.mpr hall⟩

/-- An integer is refused if it has too many digits, whatever its sign. -/
theorem readInt_eq_error_iff {default : Int} {text : String} {e : TooManyDigits} :
    readInt default text = .error e ↔
      ∃ sign digits, text.toList = sign ++ digits ∧ (sign = [] ∨ sign = ['-']) ∧
        (∀ c ∈ digits, c.isDigit = true) ∧ maxDigits < digits.length ∧ e = ⟨digits.length⟩ := by
  rw [readInt]
  split
  · next digits hminus =>
    rw [hminus]
    refine (readDigits_eq_error_iff default (fun n => -n) digits e).trans ?_
    constructor
    · exact fun h => ⟨['-'], digits, rfl, .inr rfl, h⟩
    · rintro ⟨sign, all, hsplit, rfl | rfl, hall, h⟩
      · rw [List.nil_append] at hsplit
        exact absurd (hall '-' (hsplit ▸ List.mem_cons_self)) (by decide)
      · obtain ⟨-, rfl⟩ := List.cons.inj hsplit
        exact ⟨hall, h⟩
  · next hminus =>
    refine (readDigits_eq_error_iff default (fun n => n) text.toList e).trans ?_
    constructor
    · exact fun h => ⟨[], text.toList, rfl, .inl rfl, h⟩
    · rintro ⟨sign, all, hsplit, rfl | rfl, hall, h⟩
      · rw [hsplit]
        exact ⟨hall, h⟩
      · exact absurd hsplit (hminus all)

end JournalSearch.Text
