import JournalSearch.Proofs.Period.DateWords

/-!
What ranges mean. A range is divided at the first word for its end that has words on both sides,
and that is the one which the grammar has there, since no word of a date is such a word. So the
words of a range have the span that the grammar gives to their text, and words that have a span
make up the text of a range.
-/
namespace JournalSearch.Period

open Calendar (Date Span)
open Outcome
open SmartDate (spanOfWords)
open Text (IsWord unwords)

variable {reference : Date} {ws rest before after : List String} {word first text : String}
  {span : Span}

namespace Range

@[simp]
theorem isUntil_iff : isUntil word = true ↔ IsTo word := by
  rw [isUntil, Bool.or_eq_true, decide_eq_true_eq, decide_eq_true_eq, IsTo]

/-- Where words are divided, a word for the end stands between others. -/
theorem exists_of_split?_eq_some (h : split? ws = some (before, after)) :
    ∃ word, IsTo word ∧ ws = before ++ word :: after ∧ before ≠ [] ∧ after ≠ [] := by
  induction ws generalizing before with
  | nil => cases h
  | cons first ws ih =>
    cases ws with
    | nil => cases h
    | cons word rest =>
      rw [split?] at h
      split_ifs at h with hdivide
      · cases h
        exact ⟨word, isUntil_iff.mp hdivide.1, rfl, List.cons_ne_nil _ _, hdivide.2⟩
      · obtain ⟨⟨more, last⟩, hsplit, hpair⟩ := Option.map_eq_some_iff.mp h
        cases hpair
        obtain ⟨middle, hmiddle, hws, -, hafter⟩ := ih hsplit
        exact ⟨middle, hmiddle, by rw [hws, List.cons_append], List.cons_ne_nil _ _, hafter⟩

/-- Words before the first word for the end are those before which it divides. -/
theorem split?_append (hbefore : before ≠ []) (hnone : ∀ word ∈ before, ¬IsTo word)
    (hword : IsTo word) (hafter : after ≠ []) :
    split? (before ++ word :: after) = some (before, after) := by
  induction before with
  | nil => exact absurd rfl hbefore
  | cons first more ih =>
    cases more with
    | nil => simp [split?, hword, hafter]
    | cons second more =>
      have hmore := ih (List.cons_ne_nil _ _) fun _ hmem => hnone _ (List.mem_cons_of_mem _ hmem)
      have hsecond := hnone second (List.mem_cons_of_mem _ List.mem_cons_self)
      rw [List.cons_append] at hmore
      simp [split?, hsecond, hmore]

theorem split?_eq_none (hnone : ∀ word ∈ ws, ¬IsTo word) : split? ws = none := by
  by_contra hsome
  obtain ⟨⟨before, after⟩, hsplit⟩ := Option.ne_none_iff_exists'.mp hsome
  obtain ⟨word, hword, rfl, -⟩ := exists_of_split?_eq_some hsplit
  exact hnone word (List.mem_append_right _ List.mem_cons_self) hword

theorem resolve_fromTo_eq_ok_iff :
    (fromTo before after).resolve reference = .ok span ↔
      ∃ a b, spanOfWords reference before = .ok a ∧ spanOfWords reference after = .ok b ∧
        span = ⟨a.start, b.start⟩ := by
  simp only [resolve, bind_eq_ok_iff, pure_eq_ok_iff]
  constructor
  · rintro ⟨a, ha, b, hb, rfl⟩
    exact ⟨a, b, ha, hb, rfl⟩
  · rintro ⟨a, b, ha, hb, rfl⟩
    exact ⟨a, ha, b, hb, rfl⟩

theorem ofWords_of_isFrom (hword : IsFrom word) (hrest : rest ≠ []) :
    ofWords (word :: rest) =
      ((split? rest).map fun p => fromTo p.1 p.2).getD (starting rest) := by
  obtain ⟨second, rest, rfl⟩ := List.exists_cons_of_ne_nil hrest
  have hopening : word = "from" ∨ word = "since" := hword
  simp only [ofWords, hopening, if_true]
  cases split? (second :: rest) <;> rfl

theorem ofWords_of_isTo (hword : IsTo word) (hrest : rest ≠ []) :
    ofWords (word :: rest) = ending rest := by
  obtain ⟨second, rest, rfl⟩ := List.exists_cons_of_ne_nil hrest
  rcases hword with rfl | rfl
  · rfl
  · rfl

theorem ofWords_in (hrest : rest ≠ []) : ofWords ("in" :: rest) = within rest := by
  obtain ⟨second, rest, rfl⟩ := List.exists_cons_of_ne_nil hrest
  rfl

/-- Words that are divided make up the text from one period to another. -/
theorem exists_periods_of_split? (hsplit : split? ws = some (before, after))
    (h : (fromTo before after).resolve reference = .ok span) :
    ∃ first word last s f s' f', NamesPeriod reference first s f ∧ IsTo word ∧
      NamesPeriod reference last s' f' ∧
      unwords ws = first ++ " " ++ (word ++ " " ++ last) ∧ span = ⟨some s, some s'⟩ := by
  obtain ⟨a, b, ha, hb, rfl⟩ := resolve_fromTo_eq_ok_iff.mp h
  obtain ⟨s, f, hfirst, rfl⟩ := namesPeriod_of_spanOfWords ha
  obtain ⟨s', f', hlast, rfl⟩ := namesPeriod_of_spanOfWords hb
  obtain ⟨word, hword, rfl, hbefore, hafter⟩ := exists_of_split?_eq_some hsplit
  refine ⟨_, word, _, s, f, s', f', hfirst, hword, hlast, ?_, rfl⟩
  rw [Text.unwords_append hbefore (List.cons_ne_nil _ _), Text.unwords_cons hafter]

/-- Words that have a span make up the text of a range with that span. -/
theorem meansSpan_of_resolve (h : (ofWords ws).resolve reference = .ok span) :
    MeansSpan reference (unwords ws) span := by
  unfold ofWords at h
  split at h
  · cases h
  · obtain ⟨s, f, hnames, rfl⟩ := namesPeriod_of_spanOfWords h
    exact .date hnames
  · next word rest hrest =>
    have hne : rest ≠ [] := hrest
    split_ifs at h with hfrom hto hin
    · rw [Text.unwords_cons hne]
      split at h
      · next before after hsplit =>
        obtain ⟨first, middle, last, s, f, s', f', hfirst, hmiddle, hlast, htext, rfl⟩ :=
          exists_periods_of_split? hsplit h
        rw [htext]
        exact .fromTo hfrom hfirst hmiddle hlast
      · simp only [resolve, bind_eq_ok_iff, pure_eq_ok_iff] at h
        obtain ⟨a, ha, rfl⟩ := h
        obtain ⟨s, f, hfirst, rfl⟩ := namesPeriod_of_spanOfWords ha
        exact .starting hfrom hfirst
    · rw [Text.unwords_cons hne]
      simp only [resolve, bind_eq_ok_iff, pure_eq_ok_iff] at h
      obtain ⟨a, ha, rfl⟩ := h
      obtain ⟨s, f, hlast, rfl⟩ := namesPeriod_of_spanOfWords ha
      exact .ending (isUntil_iff.mp hto) hlast
    · obtain ⟨s, f, hnames, rfl⟩ := namesPeriod_of_spanOfWords h
      rw [Text.unwords_cons hne, hin]
      exact .within hnames
    · split at h
      · next before after hsplit =>
        obtain ⟨first, middle, last, s, f, s', f', hfirst, hmiddle, hlast, htext, rfl⟩ :=
          exists_periods_of_split? hsplit h
        rw [htext]
        exact .between hfirst hmiddle hlast
      · obtain ⟨s, f, hnames, rfl⟩ := namesPeriod_of_spanOfWords h
        exact .date hnames

end Range

/-- A word at which a range may begin and no interval does. -/
structure StartsRange (word : String) : Prop where
  adverb? : Interval.adverb? word = none
  ne_every : word ≠ "every"
  begins : word.toList.head?.any Unicode.isWord = true

/-- Words for a span, with their text. -/
structure AreRangeWords (reference : Date) (first : String) (rest : List String) (text : String)
    (span : Span) : Prop where
  isWord : ∀ word ∈ first :: rest, IsWord word
  starts : StartsRange first
  text_eq : text = unwords (first :: rest)
  resolve : (Range.ofWords (first :: rest)).resolve reference = .ok span

namespace IsDateWord

theorem startsRange (h : IsDateWord word) : StartsRange word where
  adverb? := h.adverb?
  ne_every hevery := h.not_keyword (by rw [hevery]; decide)
  begins := h.begins

theorem not_isTo (h : IsDateWord word) : ¬IsTo word := by
  rintro (rfl | rfl)
  · exact h.not_keyword (by decide)
  · exact h.not_keyword (by decide)

/-- What begins with a word of a date is divided if it can be. -/
theorem ofWords_cons (h : IsDateWord first) :
    Range.ofWords (first :: rest) =
      ((Range.split? (first :: rest)).map fun p => Range.fromTo p.1 p.2).getD
        (.within (first :: rest)) := by
  have hkeyword := h.not_keyword
  have hto : Range.isUntil first = false := by
    simpa [← Range.isUntil_iff] using h.not_isTo
  simp only [keywords, List.mem_cons, not_or] at hkeyword
  cases rest with
  | nil => rfl
  | cons second rest =>
    simp only [Range.ofWords, hkeyword, hto, or_self, if_false, Bool.false_eq_true]
    cases Range.split? (first :: second :: rest) <;> rfl

end IsDateWord

namespace AreDateWords

variable {date : SmartDate}

theorem isWord (h : AreDateWords ws text date) : ∀ word ∈ ws, IsWord word :=
  fun word hword => (h.isDateWord word hword).isWord

theorem not_isTo (h : AreDateWords ws text date) : ∀ word ∈ ws, ¬IsTo word :=
  fun word hword => (h.isDateWord word hword).not_isTo

end AreDateWords

theorem startsRange_of_opening (h : IsFrom word ∨ IsTo word ∨ word = "in") :
    StartsRange word ∧ IsWord word := by
  have hopenings : ∀ word ∈ ["from", "since", "to", "until", "in"],
      (Interval.adverb? word = none ∧ word ≠ "every" ∧
        word.toList.head?.any Unicode.isWord = true) ∧
      word ≠ "" ∧ word.toList.any Unicode.isSpace = false := by
    decide
  have hmem : word ∈ ["from", "since", "to", "until", "in"] := by
    simpa [IsFrom, IsTo, or_assoc] using h
  obtain ⟨⟨hadverb, hevery, hbegins⟩, hword⟩ := hopenings word hmem
  exact ⟨⟨hadverb, hevery, hbegins⟩, Text.isWord_iff.mpr hword⟩

/-- The text of a range is that of words which have its span. -/
theorem MeansSpan.exists_words (h : MeansSpan reference text span) :
    ∃ first rest, AreRangeWords reference first rest text span := by
  cases h with
  | date h =>
    obtain ⟨ws, date, hws, hspan⟩ := h.exists_words
    obtain ⟨first, rest, rfl⟩ := List.exists_cons_of_ne_nil hws.ne_nil
    have hfirst := hws.isDateWord first List.mem_cons_self
    refine ⟨first, rest, hws.isWord, hfirst.startsRange, hws.text_eq, ?_⟩
    rw [hfirst.ofWords_cons, Range.split?_eq_none hws.not_isTo]
    exact hspan
  | within h =>
    obtain ⟨ws, date, hws, hspan⟩ := h.exists_words
    obtain ⟨hstarts, hword⟩ := startsRange_of_opening (.inr (.inr rfl))
    refine ⟨"in", ws, List.forall_mem_cons.mpr ⟨hword, hws.isWord⟩, hstarts, ?_, ?_⟩
    · rw [hws.text_eq, Text.unwords_cons hws.ne_nil]
    · rw [Range.ofWords_in hws.ne_nil]
      exact hspan
  | starting hopening h =>
    obtain ⟨ws, date, hws, hspan⟩ := h.exists_words
    obtain ⟨hstarts, hword⟩ := startsRange_of_opening (.inl hopening)
    refine ⟨_, ws, List.forall_mem_cons.mpr ⟨hword, hws.isWord⟩, hstarts, ?_, ?_⟩
    · rw [hws.text_eq, Text.unwords_cons hws.ne_nil]
    · rw [Range.ofWords_of_isFrom hopening hws.ne_nil, Range.split?_eq_none hws.not_isTo,
        Option.map_none, Option.getD_none, Range.resolve, hspan]
      rfl
  | ending hclosing h =>
    obtain ⟨ws, date, hws, hspan⟩ := h.exists_words
    obtain ⟨hstarts, hword⟩ := startsRange_of_opening (.inr (.inl hclosing))
    refine ⟨_, ws, List.forall_mem_cons.mpr ⟨hword, hws.isWord⟩, hstarts, ?_, ?_⟩
    · rw [hws.text_eq, Text.unwords_cons hws.ne_nil]
    · rw [Range.ofWords_of_isTo hclosing hws.ne_nil, Range.resolve, hspan]
      rfl
  | @between middle _ _ _ _ _ _ hfirst hmiddle hlast =>
    obtain ⟨ws, date, hws, hspan⟩ := hfirst.exists_words
    obtain ⟨ws', date', hws', hspan'⟩ := hlast.exists_words
    have hsplit := Range.split?_append hws.ne_nil hws.not_isTo hmiddle hws'.ne_nil
    obtain ⟨first, rest, rfl⟩ := List.exists_cons_of_ne_nil hws.ne_nil
    have hbegin := hws.isDateWord first List.mem_cons_self
    obtain ⟨-, hdivides⟩ := startsRange_of_opening (.inr (.inl hmiddle))
    have hword := List.forall_mem_cons.mpr ⟨hdivides, hws'.isWord⟩
    refine ⟨first, rest ++ middle :: ws',
      List.forall_mem_append.mpr ⟨hws.isWord, hword⟩, hbegin.startsRange, ?_, ?_⟩
    · rw [hws.text_eq, hws'.text_eq, ← List.cons_append,
        Text.unwords_append hws.ne_nil (List.cons_ne_nil _ _), Text.unwords_cons hws'.ne_nil]
    · rw [List.cons_append] at hsplit
      rw [hbegin.ofWords_cons, hsplit]
      exact Range.resolve_fromTo_eq_ok_iff.mpr ⟨_, _, hspan, hspan', rfl⟩
  | @fromTo opening middle _ _ _ _ _ _ hopening hfirst hmiddle hlast =>
    obtain ⟨ws, date, hws, hspan⟩ := hfirst.exists_words
    obtain ⟨ws', date', hws', hspan'⟩ := hlast.exists_words
    obtain ⟨hstarts, hopens⟩ := startsRange_of_opening (.inl hopening)
    have hsplit := Range.split?_append hws.ne_nil hws.not_isTo hmiddle hws'.ne_nil
    obtain ⟨-, hdivides⟩ := startsRange_of_opening (.inr (.inl hmiddle))
    have hword := List.forall_mem_cons.mpr ⟨hdivides, hws'.isWord⟩
    have hwords := List.forall_mem_append.mpr ⟨hws.isWord, hword⟩
    have hne : ws ++ middle :: ws' ≠ [] := List.append_ne_nil_of_left_ne_nil hws.ne_nil _
    refine ⟨opening, ws ++ middle :: ws', List.forall_mem_cons.mpr ⟨hopens, hwords⟩, hstarts,
      ?_, ?_⟩
    · rw [hws.text_eq, hws'.text_eq, Text.unwords_cons hne,
        Text.unwords_append hws.ne_nil (List.cons_ne_nil _ _), Text.unwords_cons hws'.ne_nil]
    · rw [Range.ofWords_of_isFrom hopening hne, hsplit]
      exact Range.resolve_fromTo_eq_ok_iff.mpr ⟨_, _, hspan, hspan', rfl⟩

end JournalSearch.Period
