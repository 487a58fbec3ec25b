import JournalSearch.Expression.TermText
import JournalSearch.Proofs.Period.Denotation
import JournalSearch.Proofs.Text.Numerals
import Mathlib.Algebra.Group.Nat.Defs

/-!
Dates and spans as they are written. The three numbers of a date have as many digits as the grammar
of dates wants, so the text of a date names that day. The period expression for a span is then read
as the span, whichever bounds it has and even if it is inverted, as long as the calendar has a day
after each bound.
-/
namespace JournalSearch

open Calendar (Date Span TimeUnit)
open Text (IsPlainWord isWord_iff)
open Unicode (IsUncased isSpace)

theorem Calendar.Date.text_eq (d : Date) :
    d.text = String.ofList ((Date.padded 4 d.year).toList ++ '-' ::
      ((Date.padded 2 d.month).toList ++ '-' :: (Date.padded 2 d.day).toList)) := by
  apply String.toList_injective
  simp [Date.text, toString]

namespace Period

section Digits

variable {c : Char} {cs : List Char} {width n : Nat}

theorem areDigits_of_isDigit (h : ∀ c ∈ cs, c.isDigit = true) :
    AreDigits cs (cs.map fun c => c.toNat - '0'.toNat) := by
  rw [AreDigits, List.forall₂_map_right_iff, List.forall₂_same]
  exact fun c hc => Unicode.digitValue?_of_isDigit (h c hc)

theorem isDigit_of_mem_padded (h : c ∈ (Date.padded width n).toList) : c.isDigit = true := by
  rw [Date.padded, String.toList_ofList, List.leftpad, List.mem_append] at h
  rcases h with hzero | hdigit
  · rw [List.eq_of_mem_replicate hzero]
    decide
  · exact Nat.isDigit_of_mem_toDigits (by decide) (by decide) hdigit

/-- A number that fits into the width has that many digits when it is padded. -/
theorem isNumber_padded {least most : Nat} (hn : n < 10 ^ width) (hpos : 0 < width)
    (hleast : least ≤ width) (hmost : width ≤ most) :
    IsNumber least most (Date.padded width n).toList n := by
  have hfits : (Nat.toDigits 10 n).length ≤ width :=
    (Nat.length_toDigits_le_iff (by decide) hpos).mpr hn
  have hlength : (Date.padded width n).toList.length = width := by
    rw [Date.padded, String.toList_ofList, List.length_leftpad, Nat.max_eq_left hfits]
  refine ⟨_, areDigits_of_isDigit fun c hc => isDigit_of_mem_padded hc, ?_, ?_, ?_⟩
  · rwa [hlength]
  · rwa [hlength]
  · rw [Text.ofDigits_map_toNat, Date.padded, String.toList_ofList, List.leftpad,
      Nat.ofDigitChars_append, Nat.ofDigitChars_replicate_zero, Nat.mul_zero,
      Nat.ofDigitChars_ten_toDigits]

end Digits

variable {reference day : Date} {span : Span}

theorem isDate_text (d : Date) : IsDate d.text (.yearMonthDay d.year d.month d.day) := by
  have hyear : d.year < 10 ^ 4 := Nat.lt_succ_of_le d.year_mem.2
  have hmonth : d.month < 10 ^ 2 := by
    have hle := d.month_mem.2
    omega
  have hday : d.day < 10 ^ 2 := by
    have hle := d.day_mem.2
    have hmost := Calendar.daysInMonth_le d.year d.month
    omega
  rw [Date.text_eq]
  exact .yearMonthDay (isNumber_padded hyear (by decide) (by decide) (by decide)) (by decide)
    (isNumber_padded hmonth (by decide) (by decide) (by decide)) (by decide)
    (isNumber_padded hday (by decide) (by decide) (by decide))

/-- The text of a day before the last names that day. -/
theorem exists_namesPeriod_text (reference : Date) (h : day < .last) :
    ∃ after, NamesPeriod reference day.text day after := by
  obtain ⟨after, hafter⟩ := Date.exists_next?_of_lt h
  have hperiod : TimeUnit.day.IsPeriod day after :=
    TimeUnit.isPeriod_iff.mpr ⟨trivial, trivial, Date.dayNumber_next? hafter⟩
  exact ⟨after, _, isDate_text day, .yearMonthDay hperiod⟩

theorem isDigit_or_eq_of_mem_text {c : Char} (h : c ∈ day.text.toList) :
    c.isDigit = true ∨ c = '-' := by
  rw [Date.text_eq, String.toList_ofList] at h
  simp only [List.mem_append, List.mem_cons] at h
  rcases h with hyear | rfl | hmonth | rfl | hday
  · exact .inl (isDigit_of_mem_padded hyear)
  · exact .inr rfl
  · exact .inl (isDigit_of_mem_padded hmonth)
  · exact .inr rfl
  · exact .inl (isDigit_of_mem_padded hday)

@[simp]
theorem isPlainWord_text (d : Date) : IsPlainWord d.text := by
  have hplain : ∀ c ∈ d.text.toList, isSpace c = false ∧ IsUncased c := by
    intro c hc
    rcases isDigit_or_eq_of_mem_text hc with hdigit | rfl
    · obtain ⟨hlo, hhi⟩ := Char.isDigit_iff_toNat.mp hdigit
      simp only [Char.reduceToNat] at hlo hhi
      refine ⟨Unicode.isSpace_eq_false_of_digitValue? (Unicode.digitValue?_of_isDigit hdigit), ?_⟩
      rw [IsUncased]
      omega
    · decide
  have hne : d.text ≠ "" := by
    rw [Date.text_eq]
    simp
  exact ⟨⟨hne, fun c hc => (hplain c hc).1⟩, fun c hc => (hplain c hc).2⟩

@[simp]
theorem isPlainWord_from : IsPlainWord "from" :=
  ⟨isWord_iff.mpr (by decide), by simp [IsUncased]⟩

@[simp]
theorem isPlainWord_to : IsPlainWord "to" :=
  ⟨isWord_iff.mpr (by decide), by simp [IsUncased]⟩

theorem normalize_expression (span : Span) :
    Text.normalize span.expression = span.expression := by
  match span with
  | ⟨none, none⟩ => rfl
  | ⟨some first, none⟩ =>
    exact Text.normalize_unwords (by simp)
  | ⟨none, some stop⟩ =>
    exact Text.normalize_unwords (by simp)
  | ⟨some first, some stop⟩ =>
    exact Text.normalize_unwords (by simp)

/-- A span whose bounds lie before the last day is read as it is written. -/
theorem parse_expression (hstart : ∀ day ∈ span.start, day < .last)
    (hfinish : ∀ day ∈ span.finish, day < .last) :
    parse reference span.expression = .ok (none, span) := by
  apply parse_of_means
  rw [normalize_expression]
  match span with
  | ⟨none, none⟩ => exact .empty
  | ⟨some first, none⟩ =>
    obtain ⟨after, hfirst⟩ := exists_namesPeriod_text reference (hstart first rfl)
    rw [Span.expression, Text.unwords_cons (List.cons_ne_nil _ _), Text.unwords_singleton]
    exact .range (.starting (.inl rfl) hfirst)
  | ⟨none, some stop⟩ =>
    obtain ⟨after, hstop⟩ := exists_namesPeriod_text reference (hfinish stop rfl)
    rw [Span.expression, Text.unwords_cons (List.cons_ne_nil _ _), Text.unwords_singleton]
    exact .range (.ending (.inl rfl) hstop)
  | ⟨some first, some stop⟩ =>
    obtain ⟨_, hfirst⟩ := exists_namesPeriod_text reference (hstart first rfl)
    obtain ⟨_, hstop⟩ := exists_namesPeriod_text reference (hfinish stop rfl)
    rw [Span.expression, Text.unwords_cons (List.cons_ne_nil _ _),
      Text.unwords_cons (List.cons_ne_nil _ _), Text.unwords_cons (List.cons_ne_nil _ _),
      Text.unwords_singleton]
    exact .range (.fromTo (.inl rfl) hfirst (.inl rfl) hstop)

end Period

end JournalSearch
