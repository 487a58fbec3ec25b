import JournalSearch.Proofs.Period.Intervals

/-!
The reader of period expressions reads exactly their language and gives what it means. The words
of a text are those of its grammar, as no two lists of words make up the same text.
-/
namespace JournalSearch.Period

open Calendar (Date Span)
open Outcome
open Text (IsWord lowerWords unwords)

variable {reference : Date} {text : String} {ws : List String} {result : Option Interval × Span}

theorem lowerWords_eq (hws : ∀ word ∈ ws, IsWord word) (h : Text.normalize text = unwords ws) :
    lowerWords text = ws :=
  Text.unwords_inj (fun _ hword => Text.isWord_of_mem_words hword) hws h

theorem parse_eq_ok_iff_of_ne_nil (hws : lowerWords text = ws) (hne : ws ≠ []) :
    parse reference text = .ok result ↔
      ∃ found left, Interval.read ws = .ok (found, left) ∧
        (left = [] ∧ result = (found, Span.unbounded) ∨
          left ≠ [] ∧ ∃ span, (Range.ofWords left).resolve reference = .ok span ∧
            result = (found, span)) := by
  obtain ⟨first, rest, rfl⟩ := List.exists_cons_of_ne_nil hne
  simp only [parse, hws, bind_eq_ok_iff, Prod.exists]
  refine exists_congr fun found => exists_congr fun left => and_congr_right fun _ => ?_
  by_cases hnil : left = []
  · rw [if_pos hnil, pure_eq_ok_iff, eq_comm]
    simp [hnil]
  · simp only [if_neg hnil, bind_eq_ok_iff, pure_eq_ok_iff, eq_comm (a := (found, _))]
    simp [hnil]

/-- What is read has the meaning that it is read with. -/
theorem means_of_parse (h : parse reference text = .ok result) :
    Means reference (Text.normalize text) result := by
  by_cases hnil : lowerWords text = []
  · rw [parse, hnil] at h
    cases h
    rw [Text.normalize, hnil]
    exact .empty
  · obtain ⟨found, left, hread, hleft⟩ := (parse_eq_ok_iff_of_ne_nil rfl hnil).mp h
    rw [Text.normalize]
    rcases Interval.read_eq_ok hread with ⟨rfl, rfl⟩ | ⟨i, rfl, ⟨ws, hws, hwords, hi⟩ | hastray⟩
    · rcases hleft with ⟨hleft, -⟩ | ⟨-, span, hspan, rfl⟩
      · exact absurd hleft hnil
      · exact .range (Range.meansSpan_of_resolve hspan)
    · rcases hleft with ⟨rfl, rfl⟩ | ⟨hne, span, hspan, rfl⟩
      · rw [hwords, List.append_nil]
        exact .interval hi
      · rw [hwords, Text.unwords_append hws hne]
        exact .both hi (Range.meansSpan_of_resolve hspan)
    · rcases hleft with ⟨rfl, -⟩ | ⟨-, span, hspan, -⟩
      · obtain ⟨stray, more, hcons, -⟩ := hastray
        cases hcons
      · exact absurd (Range.meansSpan_of_resolve hspan) hastray.not_meansSpan

/-- What has a meaning is read with it. -/
theorem parse_of_means (h : Means reference (Text.normalize text) result) :
    parse reference text = .ok result := by
  generalize hnormal : Text.normalize text = normal at h
  cases h with
  | empty =>
    have hws : lowerWords text = [] := lowerWords_eq (List.forall_mem_nil _) hnormal
    rw [parse, hws]
    rfl
  | interval hi =>
    obtain ⟨ws, hne, hwords, rfl, hread⟩ := Interval.exists_words_of_isInterval hi
    have hws := lowerWords_eq hwords hnormal
    have hall := hread []
    rw [List.append_nil] at hall
    exact (parse_eq_ok_iff_of_ne_nil hws hne).mpr ⟨_, [], hall, .inl ⟨rfl, rfl⟩⟩
  | range hspan =>
    obtain ⟨first, rest, hrange⟩ := hspan.exists_words
    have hws := lowerWords_eq hrange.isWord (hnormal.trans hrange.text_eq)
    have hread : Interval.read (first :: rest) = .ok (none, first :: rest) :=
      Interval.read_of_startsRange hrange.starts
    refine (parse_eq_ok_iff_of_ne_nil hws (List.cons_ne_nil _ _)).mpr ⟨_, _, hread, ?_⟩
    exact .inr ⟨List.cons_ne_nil _ _, _, hrange.resolve, rfl⟩
  | both hi hspan =>
    obtain ⟨ws, hne, hwords, rfl, hread⟩ := Interval.exists_words_of_isInterval hi
    obtain ⟨first, rest, hrange⟩ := hspan.exists_words
    have hcons : first :: rest ≠ [] := List.cons_ne_nil _ _
    rw [hrange.text_eq, ← Text.unwords_append hne hcons] at hnormal
    have hall := List.forall_mem_append.mpr ⟨hwords, hrange.isWord⟩
    have hws := lowerWords_eq hall hnormal
    have happend : ws ++ first :: rest ≠ [] := List.append_ne_nil_of_left_ne_nil hne _
    refine (parse_eq_ok_iff_of_ne_nil hws happend).mpr ⟨_, _, hread _, ?_⟩
    exact .inr ⟨hcons, _, hrange.resolve, rfl⟩

/-- A text is read as a period expression exactly if, with single blanks between its words and in
lower case, it belongs to the language of period expressions, and what is read is what it means
there. -/
theorem parse_eq_ok_iff_means (reference : Date) (text : String)
    (result : Option Interval × Span) :
    parse reference text = .ok result ↔ Means reference (Text.normalize text) result :=
  ⟨means_of_parse, parse_of_means⟩

example : parse ⟨2012, 5, 16, by decide, by decide, by decide⟩ "Weekly  to 2013" =
    .ok (some (.single .week), ⟨none, some ⟨2013, 1, 1, by decide, by decide, by decide⟩⟩) := by
  cbv

end JournalSearch.Period
