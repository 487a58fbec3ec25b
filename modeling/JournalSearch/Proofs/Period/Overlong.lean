import JournalSearch.Proofs.Period.Intervals
import JournalSearch.Proofs.Text.Numerals

/-!
Counts that are too long to be read. A period expression is refused for its count exactly if it
begins with "every", a number with too many digits and a unit, whatever follows the unit. All other
refusals are those of dates that are unknown or that the calendar lacks, and of the count zero.
-/
namespace JournalSearch.Period

open Calendar (Date Span TimeUnit)
open Outcome
open Text (IsWord TooManyDigits lowerWords maxDigits ofDigits? unwords)

inductive HasOverlongCount : String → TooManyDigits → Prop
  | every {number : List Char} {digits : List Nat} {tail unit : String} {u : TimeUnit}
      {rest : List Char} (hnumber : AreDigits number digits) (hmany : maxDigits < number.length)
      (hunit : IsUnit unit u) (htail : GoesOn tail unit rest) :
      HasOverlongCount ("every" ++ " " ++ (String.ofList number ++ " " ++ tail)) ⟨number.length⟩

theorem goesOn_unwords {word name : String} {glued : List Char} (h : GoesOn word name glued)
    (more : List String) : ∃ rest, GoesOn (unwords (word :: more)) name rest := by
  obtain ⟨hword, hglued⟩ := h
  by_cases hmore : more = []
  · rw [hmore, Text.unwords_singleton]
    exact ⟨glued, hword, hglued⟩
  · refine ⟨glued ++ ' ' :: (unwords more).toList, ?_, ?_⟩
    · rw [Text.toList_unwords_cons hmore, hword, List.append_assoc]
    · cases glued with
      | nil =>
        have hblank : Unicode.isWord ' ' = false := by decide
        simpa using hblank
      | cons c glued => exact hglued

/-- The first word of a text that goes on after a name goes on after it, too. -/
theorem exists_words_of_goesOn {tail name : String} {rest : List Char} (hname : IsWord name)
    (h : GoesOn tail name rest) :
    ∃ word more glued, Text.words tail.toList = word :: more ∧ GoesOn word name glued := by
  obtain ⟨htail, hrest⟩ := h
  refine ⟨_, _, rest.takeWhile (!Unicode.isSpace ·), by rw [htail, Text.words_append hname], ?_, ?_⟩
  · rw [String.toList_ofList]
  · cases rest with
    | nil => rfl
    | cons c rest =>
      by_cases hc : Unicode.isSpace c = true
      · simp [hc]
      · simpa [hc] using hrest

namespace Interval

variable {word name : String} {u : TimeUnit} {glued : List Char} {words : List String}
  {e : TooManyDigits}

/-- The name is where the characters of words end. -/
theorem takeWhile_of_goesOn (hname : ∀ c ∈ name.toList, Unicode.isWord c = true)
    (h : GoesOn word name glued) : word.toList.takeWhile Unicode.isWord = name.toList := by
  obtain ⟨hword, hglued⟩ := h
  have hnone : glued.takeWhile Unicode.isWord = [] := by
    cases glued with
    | nil => rfl
    | cons c glued => exact List.takeWhile_cons_of_neg (by simpa using hglued)
  rw [hword, List.takeWhile_append_of_pos hname, hnone, List.append_nil]

/-- The name of a unit consists of characters of words and belongs to no other unit. -/
theorem isUnit_unique (h : IsUnit name u) :
    (∀ c ∈ name.toList, Unicode.isWord c = true) ∧ ∀ v, IsUnit name v → u = v := by
  have hall : ∀ p ∈ SmartDate.unitNames, ∀ name ∈ [p.1, p.1 ++ "s"],
      name.toList.all Unicode.isWord = true ∧
        ∀ r ∈ SmartDate.unitNames, name ∈ [r.1, r.1 ++ "s"] → p.2 = r.2 := by
    decide +kernel
  obtain ⟨single, hsingle, hname⟩ := h
  obtain ⟨hletters, hsame⟩ := hall _ hsingle name (by simpa using hname)
  refine ⟨List.all_eq_true.mp hletters, ?_⟩
  rintro v ⟨other, hother, hname'⟩
  exact hsame _ hother (by simpa using hname')

/-- A word begins with the name of one unit at most, as a name ends where the characters of words
do. -/
theorem unit?_eq_some_iff :
    unit? word = some (u, glued) ↔ ∃ name, IsUnit name u ∧ GoesOn word name glued := by
  refine ⟨exists_of_unit?_eq_some, ?_⟩
  rintro ⟨name, hunit, hgoes⟩
  obtain ⟨hletters, hone⟩ := isUnit_unique hunit
  cases hread : unit? word with
  | some found =>
    obtain ⟨v, glued'⟩ := found
    obtain ⟨name', hunit', hgoes'⟩ := exists_of_unit?_eq_some hread
    have hend := takeWhile_of_goesOn (isUnit_unique hunit').1 hgoes'
    rw [takeWhile_of_goesOn hletters hgoes] at hend
    obtain rfl := String.toList_injective hend
    rw [hone v hunit', List.append_cancel_left (hgoes.1.symm.trans hgoes'.1)]
  | none =>
    obtain ⟨single, hsingle, hname⟩ := hunit
    have hneither := List.findSome?_eq_none_iff.mp hread _ hsingle
    simp only [Option.map_eq_none_iff, Option.orElse_eq_orElse, Option.orElse_eq_or,
      Option.or_eq_none_iff] at hneither
    have hsome := afterWord?_eq_some_iff.mpr hgoes
    rcases hname with rfl | rfl
    · rw [hneither.2] at hsome
      cases hsome
    · rw [hneither.1] at hsome
      cases hsome

theorem every_eq_countTooLong_iff {rest : List String} :
    read.every words rest = .error (.countTooLong e) ↔
      ∃ digits u more, read.counted? rest = some (digits, u, more) ∧
        ofDigits? digits = .error e := by
  unfold read.every
  split
  · next digits u more _ hcounted =>
    simp only [hcounted, Option.some.injEq, Prod.mk.injEq]
    split
    · next why hwhy => simp [hwhy]
    · next count hcount =>
      split_ifs with hpos
      · simp [hcount]
      · simp [hcount]
  · next u more hcounted _ => simp [hcounted]
  · next hcounted _ => simp [hcounted]

/-- An interval is refused for its count if a unit follows the count. -/
theorem read_eq_countTooLong_iff :
    read words = .error (.countTooLong e) ↔
      ∃ number word more digits u glued, words = "every" :: number :: word :: more ∧
        countDigits? number = some digits ∧ unit? word = some (u, glued) ∧
        maxDigits < digits.length ∧ e = ⟨digits.length⟩ := by
  constructor
  · intro h
    unfold read at h
    split at h
    · cases h
    · next first rest =>
      split at h
      · cases h
      · split_ifs at h with hevery
        · obtain ⟨digits, u, left, hcounted, herror⟩ := every_eq_countTooLong_iff.mp h
          obtain ⟨number, word, more, glued, rfl, hdigits, hunit, -⟩ :=
            exists_of_counted?_eq_some hcounted
          obtain ⟨hmany, he⟩ := Text.ofDigits?_eq_error_iff.mp herror
          exact ⟨number, word, more, digits, u, glued, by rw [hevery], hdigits, hunit, hmany, he⟩
        · cases h
  · rintro ⟨number, word, more, digits, u, glued, rfl, hdigits, hunit, hmany, rfl⟩
    rw [read_every, every_eq_countTooLong_iff]
    refine ⟨digits, u, glue glued more, ?_, Text.ofDigits?_eq_error_iff.mpr ⟨hmany, rfl⟩⟩
    simp [read.counted?, hdigits, hunit]

end Interval

variable {reference : Date} {text : String} {ws : List String} {e : TooManyDigits}

theorem spanOfWords_ne_countTooLong :
    SmartDate.spanOfWords reference ws ≠ .error (.countTooLong e) := by
  intro h
  rw [SmartDate.spanOfWords] at h
  split at h
  · cases h
  · next date _ =>
    cases hdate : date.resolve reference with
    | error why => simp [hdate, Except.mapError] at h
    | ok span => simp [hdate, Except.mapError] at h

/-- Dates have no counts that could be too long. -/
theorem resolve_ne_countTooLong (range : Range) :
    range.resolve reference ≠ .error (.countTooLong e) := by
  cases range with
  | within date => exact spanOfWords_ne_countTooLong
  | fromTo first last =>
    refine bind_ne_error spanOfWords_ne_countTooLong fun start => ?_
    exact bind_ne_error spanOfWords_ne_countTooLong fun finish => pure_ne_error
  | starting first => exact bind_ne_error spanOfWords_ne_countTooLong fun start => pure_ne_error
  | ending last => exact bind_ne_error spanOfWords_ne_countTooLong fun finish => pure_ne_error

theorem parse_eq_countTooLong_iff_read :
    parse reference text = .error (.countTooLong e) ↔
      Interval.read (lowerWords text) = .error (.countTooLong e) := by
  rw [parse]
  split
  · next hnil => simp [hnil, Interval.read]
  · rw [bind_eq_error_iff, or_iff_left]
    rintro ⟨⟨found, left⟩, -, hrest⟩
    dsimp only at hrest
    split_ifs at hrest with hleft
    · exact pure_ne_error hrest
    · exact resolve_ne_countTooLong _ (bind_pure_eq_error_iff.mp hrest)

/-- A period expression is refused for its count exactly if its text begins with an interval whose
count has too many digits. -/
theorem parse_eq_countTooLong_iff (reference : Date) :
    parse reference text = .error (.countTooLong e) ↔
      HasOverlongCount (Text.normalize text) e := by
  rw [parse_eq_countTooLong_iff_read, Interval.read_eq_countTooLong_iff]
  constructor
  · rintro ⟨number, word, more, digits, u, glued, hwords, hdigits, hread, hmany, rfl⟩
    obtain ⟨hnumber, -⟩ := Interval.countDigits?_eq_some_iff.mp hdigits
    obtain ⟨name, hunit, hgoes⟩ := Interval.unit?_eq_some_iff.mp hread
    obtain ⟨rest, htail⟩ := goesOn_unwords hgoes more
    rw [← hnumber.length_eq] at hmany ⊢
    have htext := HasOverlongCount.every hnumber hmany hunit htail
    rwa [String.ofList_toList, ← Text.unwords_cons (List.cons_ne_nil _ _),
      ← Text.unwords_cons (List.cons_ne_nil _ _), ← hwords] at htext
  · intro h
    have hwords : Text.words (Text.normalize text).toList = lowerWords text :=
      Text.words_unwords fun _ hword => Text.isWord_of_mem_words hword
    rw [← hwords]
    generalize Text.normalize text = normal at h ⊢
    cases h with
    | @every number digits tail unit u rest hnumber hmany hunit htail =>
      have hsome : 0 < number.length := Nat.zero_lt_of_lt hmany
      have hcount : IsWord (String.ofList number) := by
        refine ⟨by simpa using List.ne_nil_of_length_pos hsome, ?_⟩
        rw [String.toList_ofList]
        exact fun c hc => (hnumber.isNumeric c hc).isSpace_eq_false
      obtain ⟨-, -, hname⟩ := Interval.unit?_of_isUnit hunit
      obtain ⟨word, more, glued, htail, hgoes⟩ := exists_words_of_goesOn hname htail
      rw [hnumber.length_eq] at hmany hsome ⊢
      refine ⟨String.ofList number, word, more, digits, u, glued, ?_, ?_, ?_, hmany, rfl⟩
      · rw [Text.words_append_blank Interval.isWord_every, Text.words_append_blank hcount, htail]
      · rw [Interval.countDigits?_eq_some_iff, String.toList_ofList]
        exact ⟨hnumber, List.ne_nil_of_length_pos hsome⟩
      · exact Interval.unit?_eq_some_iff.mpr ⟨unit, hunit, hgoes⟩

end JournalSearch.Period
