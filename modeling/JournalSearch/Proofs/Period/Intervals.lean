import JournalSearch.Proofs.Period.Ranges

/-!
What intervals mean. An interval ends with its last word, and the words after it are left. Where
something is glued to that word, what is left begins with a character that no word of a range
begins with, so that it means no span.
-/
namespace JournalSearch.Period

open Calendar (Date Span TimeUnit)
open Outcome
open Text (IsWord TooManyDigits maxDigits ofDigits ofDigits? unwords)

/-- A word goes on after a name with what does not belong to words. -/
def GoesOn (word name : String) (glued : List Char) : Prop :=
  word.toList = name.toList ++ glued ∧ glued.head?.any Unicode.isWord = false

def BeginsAstray (ws : List String) : Prop :=
  ∃ stray more, ws = stray :: more ∧ stray ≠ "" ∧ stray.toList.head?.any Unicode.isWord = false

theorem head?_unwords {word : String} (hword : word ≠ "") (ws : List String) :
    (unwords (word :: ws)).toList.head? = word.toList.head? := by
  have hne : word.toList ≠ [] := fun hnil => hword (String.toList_eq_nil_iff.mp hnil)
  by_cases hws : ws = []
  · rw [hws, Text.unwords_singleton]
  · rw [Text.unwords_cons hws, String.append_assoc, String.toList_append,
      List.head?_append_of_ne_nil _ hne]

theorem BeginsAstray.not_meansSpan {reference : Date} {ws : List String} {span : Span}
    (h : BeginsAstray ws) : ¬MeansSpan reference (unwords ws) span := by
  intro hspan
  obtain ⟨stray, more, rfl, hne, hstray⟩ := h
  obtain ⟨first, rest, hrange⟩ := hspan.exists_words
  have hhead := congrArg (·.toList.head?) hrange.text_eq
  simp only [head?_unwords hne, head?_unwords (hrange.isWord first List.mem_cons_self).1] at hhead
  have hbegins := hrange.starts.begins
  rw [← hhead, hstray] at hbegins
  cases hbegins

namespace Interval

variable {word name number : String} {u : TimeUnit} {glued : List Char} {digits : List Nat}
  {words rest left : List String} {found : Option Interval}

theorem afterWord?_eq_some_iff :
    afterWord? name word.toList = some glued ↔ GoesOn word name glued := by
  rw [afterWord?, Option.filter_eq_some_iff,
    List.isPrefixOf?_eq_some_iff_append_eq, Bool.not_eq_true', GoesOn, eq_comm]

theorem exists_of_adverb?_eq_some (h : adverb? word = some (u, glued)) :
    ∃ name, (name, u) ∈ adverbs ∧ GoesOn word name glued := by
  obtain ⟨⟨name, v⟩, hname, hfound⟩ := List.exists_of_findSome?_eq_some h
  obtain ⟨after, hafter, hpair⟩ := Option.map_eq_some_iff.mp hfound
  cases hpair
  exact ⟨name, hname, afterWord?_eq_some_iff.mp hafter⟩

theorem exists_of_unit?_eq_some (h : unit? word = some (u, glued)) :
    ∃ name, IsUnit name u ∧ GoesOn word name glued := by
  obtain ⟨⟨name, v⟩, hname, hfound⟩ := List.exists_of_findSome?_eq_some h
  obtain ⟨after, hafter, hpair⟩ := Option.map_eq_some_iff.mp hfound
  cases hpair
  simp only [Option.orElse_eq_orElse, Option.orElse_eq_or, Option.or_eq_some_iff] at hafter
  rcases hafter with hplural | ⟨-, hsingular⟩
  · exact ⟨name ++ "s", ⟨name, hname, .inr rfl⟩, afterWord?_eq_some_iff.mp hplural⟩
  · exact ⟨name, ⟨name, hname, .inl rfl⟩, afterWord?_eq_some_iff.mp hsingular⟩

/-- Either nothing is glued to a name or what follows begins astray. -/
theorem glue_cases (h : GoesOn word name glued) (rest : List String) :
    word = name ∧ glue glued rest = rest ∨ BeginsAstray (glue glued rest) := by
  obtain ⟨hword, hglued⟩ := h
  by_cases hnil : glued = []
  · rw [hnil, List.append_nil] at hword
    exact .inl ⟨String.toList_injective hword, if_pos hnil⟩
  · refine .inr ⟨String.ofList glued, rest, if_neg hnil, ?_, ?_⟩
    · simpa using hnil
    · rwa [String.toList_ofList]

theorem countDigits?_eq_some_iff :
    countDigits? number = some digits ↔ AreDigits number.toList digits ∧ digits ≠ [] := by
  rw [countDigits?, Option.filter_eq_some_iff, mapM_digitValue?_eq_some_iff, decide_eq_true_eq]

theorem ofDigits?_eq_ok_iff {count : Nat} :
    ofDigits? digits = .ok count ↔ digits.length ≤ maxDigits ∧ count = ofDigits digits := by
  rw [ofDigits?]
  split_ifs with hmany
  · simp [hmany]
  · simp [Nat.not_lt.mp hmany, eq_comm]

/-- The interval is that of the words up to those that are left, unless these begin astray. -/
def ReadsTo (words : List String) (i : Interval) (left : List String) : Prop :=
  (∃ ws, ws ≠ [] ∧ words = ws ++ left ∧ IsInterval (unwords ws) i) ∨ BeginsAstray left

theorem readsTo_of_goesOn {i : Interval} (before : List String) (hgoes : GoesOn word name glued)
    (hi : IsInterval (unwords (before ++ [name])) i) :
    ReadsTo (before ++ word :: rest) i (glue glued rest) := by
  rcases glue_cases hgoes rest with ⟨rfl, hglue⟩ | hastray
  · exact .inl ⟨before ++ [word], by simp, by simp [hglue], hi⟩
  · exact .inr hastray

theorem readsTo_every (h : unit? word = some (u, glued)) :
    ReadsTo ("every" :: word :: rest) (single u) (glue glued rest) := by
  obtain ⟨name, hunit, hgoes⟩ := exists_of_unit?_eq_some h
  have hi : IsInterval (unwords ["every", name]) (single u) := by
    rw [Text.unwords_cons (List.cons_ne_nil _ _), Text.unwords_singleton]
    exact .every hunit
  exact readsTo_of_goesOn ["every"] hgoes hi

theorem readsTo_everyCount {count : Nat} (hdigits : countDigits? number = some digits)
    (hcount : ofDigits? digits = .ok count) (hpos : 0 < count)
    (h : unit? word = some (u, glued)) :
    ReadsTo ("every" :: number :: word :: rest) ⟨u, count, hpos⟩ (glue glued rest) := by
  obtain ⟨hnumber, hne⟩ := countDigits?_eq_some_iff.mp hdigits
  obtain ⟨hlength, hvalue⟩ := ofDigits?_eq_ok_iff.mp hcount
  have hsome := List.length_pos_iff.mpr hne
  have hcounts : IsNumber 1 maxDigits number.toList count :=
    ⟨digits, hnumber, hnumber.length_eq ▸ hsome, hnumber.length_eq ▸ hlength, hvalue⟩
  obtain ⟨name, hunit, hgoes⟩ := exists_of_unit?_eq_some h
  have hi : IsInterval (unwords ["every", number, name]) ⟨u, count, hpos⟩ := by
    rw [Text.unwords_cons (List.cons_ne_nil _ _), Text.unwords_cons (List.cons_ne_nil _ _),
      Text.unwords_singleton, ← String.ofList_toList (s := number)]
    exact .everyCount hcounts hpos hunit
  exact readsTo_of_goesOn ["every", number] hgoes hi

theorem exists_of_counted?_eq_some {left : List String}
    (h : read.counted? rest = some (digits, u, left)) :
    ∃ number word more glued, rest = number :: word :: more ∧
      countDigits? number = some digits ∧ unit? word = some (u, glued) ∧
      left = glue glued more := by
  unfold read.counted? at h
  split at h
  · next number word more =>
    simp only [Option.bind_eq_bind, Option.pure_def, Option.bind_eq_some_iff, Option.some.injEq,
      Prod.mk.injEq, Prod.exists] at h
    obtain ⟨_, hdigits, _, glued, hunit, rfl, rfl, rfl⟩ := h
    exact ⟨number, word, more, glued, rfl, hdigits, hunit, rfl⟩
  · cases h

theorem exists_of_uncounted?_eq_some {left : List String}
    (h : read.uncounted? rest = some (u, left)) :
    ∃ word more glued, rest = word :: more ∧ unit? word = some (u, glued) ∧
      left = glue glued more := by
  unfold read.uncounted? at h
  split at h
  · next word more =>
    obtain ⟨⟨v, glued⟩, hunit, hpair⟩ := Option.map_eq_some_iff.mp h
    cases hpair
    exact ⟨word, more, glued, rfl, hunit, rfl⟩
  · cases h

theorem every_eq_ok (h : read.every ("every" :: rest) rest = .ok (found, left)) :
    found = none ∧ left = "every" :: rest ∨
      ∃ i, found = some i ∧ ReadsTo ("every" :: rest) i left := by
  unfold read.every at h
  split at h
  · next digits u more _ hcounted =>
    obtain ⟨number, word, after, glued, rfl, hdigits, hunit, rfl⟩ :=
      exists_of_counted?_eq_some hcounted
    split at h
    · cases h
    · next count hcount =>
      split_ifs at h with hpos
      cases h
      exact .inr ⟨_, rfl, readsTo_everyCount hdigits hcount hpos hunit⟩
  · next u more _ huncounted =>
    obtain ⟨word, after, glued, rfl, hunit, rfl⟩ := exists_of_uncounted?_eq_some huncounted
    cases h
    exact .inr ⟨_, rfl, readsTo_every hunit⟩
  · cases h
    exact .inl ⟨rfl, rfl⟩

/-- An interval is read from its own words, and nothing is taken where there is none. -/
theorem read_eq_ok (h : read words = .ok (found, left)) :
    found = none ∧ left = words ∨ ∃ i, found = some i ∧ ReadsTo words i left := by
  unfold read at h
  split at h
  · cases h
    exact .inl ⟨rfl, rfl⟩
  · next first rest =>
    split at h
    · next u glued hadverb =>
      cases h
      obtain ⟨name, hname, hgoes⟩ := exists_of_adverb?_eq_some hadverb
      have hi : IsInterval (unwords [name]) (single u) := by
        rw [Text.unwords_singleton]
        exact .adverb hname
      exact .inr ⟨_, rfl, readsTo_of_goesOn [] hgoes hi⟩
    · split_ifs at h with hevery
      · rw [hevery] at h ⊢
        exact every_eq_ok h
      · cases h
        exact .inl ⟨rfl, rfl⟩

theorem read_of_startsRange {first : String} (h : StartsRange first) :
    read (first :: rest) = .ok (none, first :: rest) := by
  simp only [read, h.adverb?, h.ne_every, if_false]
  rfl

theorem adverb?_of_mem {p : String × TimeUnit} (hp : p ∈ adverbs) :
    adverb? p.1 = some (p.2, []) ∧ IsWord p.1 := by
  have hall : ∀ p ∈ adverbs, adverb? p.1 = some (p.2, []) ∧
      p.1 ≠ "" ∧ p.1.toList.any Unicode.isSpace = false := by
    decide +kernel
  obtain ⟨hadverb, hword⟩ := hall p hp
  exact ⟨hadverb, Text.isWord_iff.mpr hword⟩

/-- The name of a unit is read whole, and it is no count. -/
theorem unit?_of_isUnit {text : String} (h : IsUnit text u) :
    unit? text = some (u, []) ∧ countDigits? text = none ∧ IsWord text := by
  have hall : ∀ p ∈ SmartDate.unitNames, ∀ text ∈ [p.1, p.1 ++ "s"],
      unit? text = some (p.2, []) ∧ countDigits? text = none ∧
        text ≠ "" ∧ text.toList.any Unicode.isSpace = false := by
    decide +kernel
  obtain ⟨name, hname, htext⟩ := h
  obtain ⟨hread, hcount, hword⟩ := hall _ hname text (by simpa using htext)
  exact ⟨hread, hcount, Text.isWord_iff.mpr hword⟩

theorem read_every : read ("every" :: rest) = read.every ("every" :: rest) rest := by
  have hadverb : adverb? "every" = none := by decide
  simp only [read, hadverb, if_true]

@[simp]
theorem isWord_every : IsWord "every" := Text.isWord_iff.mpr (by decide)

/-- The words of an interval are read as it, whatever follows. -/
theorem exists_words_of_isInterval {text : String} {i : Interval} (h : IsInterval text i) :
    ∃ ws, ws ≠ [] ∧ (∀ word ∈ ws, IsWord word) ∧ text = unwords ws ∧
      ∀ more, read (ws ++ more) = .ok (some i, more) := by
  cases h with
  | adverb hname =>
    obtain ⟨hadverb, hword⟩ := adverb?_of_mem hname
    refine ⟨[text], List.cons_ne_nil _ _, by simpa using hword, ?_, ?_⟩
    · rw [Text.unwords_singleton]
    · intro more
      simp only [List.singleton_append, read, hadverb]
      rfl
  | @every unit u hunit =>
    obtain ⟨hread, hcount, hword⟩ := unit?_of_isUnit hunit
    refine ⟨["every", unit], List.cons_ne_nil _ _, by simp [hword], ?_, ?_⟩
    · rw [Text.unwords_cons (List.cons_ne_nil _ _), Text.unwords_singleton]
    · intro more
      have hnone : read.counted? (unit :: more) = none := by
        cases more <;> simp [read.counted?, hcount]
      have hsome : read.uncounted? (unit :: more) = some (u, more) := by
        simp [read.uncounted?, hread, glue]
      simp only [List.cons_append, List.nil_append, read_every, read.every, hnone, hsome]
      rfl
  | @everyCount number unit count u hnumber hpos hunit =>
    obtain ⟨hread, -, hword⟩ := unit?_of_isUnit hunit
    have hnumeral := hnumber.isDateWord_append (by decide) (List.forall_mem_nil IsNumeric)
    rw [List.append_nil] at hnumeral
    obtain ⟨digits, hdigits, hleast, hmost, hvalue⟩ := hnumber
    rw [hdigits.length_eq] at hleast hmost
    refine ⟨["every", String.ofList number, unit], List.cons_ne_nil _ _,
      by simp [hnumeral.isWord, hword], ?_, ?_⟩
    · rw [Text.unwords_cons (List.cons_ne_nil _ _), Text.unwords_cons (List.cons_ne_nil _ _),
        Text.unwords_singleton]
    · intro more
      have hcount : countDigits? (String.ofList number) = some digits := by
        rw [countDigits?_eq_some_iff, String.toList_ofList]
        exact ⟨hdigits, List.ne_nil_of_length_pos hleast⟩
      have hsome : read.counted? (String.ofList number :: unit :: more) =
          some (digits, u, more) := by
        simp [read.counted?, hcount, hread, glue]
      have hof : ofDigits? digits = .ok count := ofDigits?_eq_ok_iff.mpr ⟨hmost, hvalue⟩
      simp only [List.cons_append, List.nil_append, read_every, read.every, hsome, hof, hpos,
        dif_pos]
      rfl

end Interval

end JournalSearch.Period
