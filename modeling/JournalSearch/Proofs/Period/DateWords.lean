import JournalSearch.Period.Expression
import JournalSearch.Proofs.Period.Dates
import JournalSearch.Proofs.Text.WordList
import JournalSearch.Proofs.Unicode.Digits

/-!
Dates as lists of words. The reader of dates takes the words of the text of a date, and no others,
to that date. None of these words opens or divides a range or begins an interval, since all begin
with a digit or are among a few names.
-/
namespace JournalSearch.Period

open Calendar (Date Span TimeUnit)
open Outcome
open Text (IsWord ofDigits unwords)
open Unicode (digitValue?)

section Digits

variable {text : List Char} {digits : List Nat} {n : Nat}

theorem AreDigits.length_eq (h : AreDigits text digits) : text.length = digits.length :=
  List.Forall₂.length_eq h

theorem AreDigits.exists_digitValue? (h : AreDigits text digits) {c : Char} (hc : c ∈ text) :
    ∃ digit, digitValue? c = some digit := by
  induction h with
  | nil => cases hc
  | cons hdigit _ ih =>
    rcases List.mem_cons.mp hc with rfl | hc
    · exact ⟨_, hdigit⟩
    · exact ih hc

theorem mapM_digitValue?_eq_some_iff :
    text.mapM digitValue? = some digits ↔ AreDigits text digits :=
  mapM_eq_some_iff digitValue? text digits

open SmartDate (isSeparator)

theorem isSeparator_eq_false_of_digitValue? {c : Char} {digit : Nat}
    (h : digitValue? c = some digit) : isSeparator c = false := by
  have hnone : ∀ separator ∈ ['/', '.', '-'], digitValue? separator = none := by
    simp only [List.forall_mem_cons, List.not_mem_nil, false_imp_iff, implies_true]
    decide
  have hne : ∀ separator ∈ ['/', '.', '-'], c ≠ separator := by
    rintro separator hseparator rfl
    rw [hnone c hseparator] at h
    cases h
  simpa [isSeparator, and_assoc] using hne

theorem AreDigits.isSeparator_eq_false (h : AreDigits text digits) :
    ∀ c ∈ text, isSeparator c = false := by
  intro c hc
  obtain ⟨digit, hdigit⟩ := h.exists_digitValue? hc
  exact isSeparator_eq_false_of_digitValue? hdigit

def IsNumeric (c : Char) : Prop := (∃ digit, digitValue? c = some digit) ∨ isSeparator c = true

theorem IsNumeric.isSpace_eq_false {c : Char} (h : IsNumeric c) : Unicode.isSpace c = false := by
  rcases h with ⟨digit, hdigit⟩ | hseparator
  · exact Unicode.isSpace_eq_false_of_digitValue? hdigit
  · simp only [isSeparator, Bool.or_eq_true, decide_eq_true_eq] at hseparator
    rcases hseparator with (rfl | rfl) | rfl <;> decide

theorem AreDigits.isNumeric (h : AreDigits text digits) : ∀ c ∈ text, IsNumeric c :=
  fun _ hc => .inl (h.exists_digitValue? hc)

open SmartDate.ofNumbers? (isShort)

theorem isNumber_short_iff :
    IsNumber 1 2 text n ↔
      ∃ digits, AreDigits text digits ∧ isShort digits = true ∧ n = ofDigits digits := by
  refine exists_congr fun digits => and_congr_right fun h => ?_
  rw [h.length_eq, isShort, Bool.or_eq_true, decide_eq_true_eq, decide_eq_true_eq]
  omega

theorem isNumber_year_iff :
    IsNumber 4 4 text n ↔
      ∃ digits, AreDigits text digits ∧ digits.length = 4 ∧ n = ofDigits digits := by
  refine exists_congr fun digits => and_congr_right fun h => ?_
  rw [h.length_eq]
  omega

end Digits

namespace SmartDate

variable {word text : String} {ws : List String} {date : SmartDate} {parts : List (List Nat)}

def AreNumbers (text : List Char) (parts : List (List Nat)) : Prop :=
  List.Forall₂ AreDigits (text.splitOnP isSeparator) parts

namespace AreNumbers

variable {chars number : List Char} {digits : List Nat} {separator : Char}

theorem single (h : AreDigits chars digits) : AreNumbers chars [digits] := by
  rw [AreNumbers, List.splitOnP_eq_singleton h.isSeparator_eq_false]
  exact .cons h .nil

theorem cons (hnumber : AreDigits number digits) (hseparator : isSeparator separator = true)
    (h : AreNumbers chars parts) : AreNumbers (number ++ separator :: chars) (digits :: parts) := by
  rw [AreNumbers, List.splitOnP_append_cons_of_forall_mem hnumber.isSeparator_eq_false _ hseparator]
  exact .cons hnumber h

theorem areDigits (h : AreNumbers chars [digits]) : AreDigits chars digits := by
  obtain ⟨only, _, honly, hnil, hsplit⟩ := List.forall₂_cons_right_iff.mp h
  obtain rfl := List.forall₂_nil_right_iff.mp hnil
  rwa [Text.eq_of_splitOnP_eq_singleton hsplit]

/-- The first of several numbers, the separator after it and the other numbers. -/
theorem exists_cons (h : AreNumbers chars (digits :: parts)) (hparts : parts ≠ []) :
    ∃ number separator more, AreDigits number digits ∧ isSeparator separator = true ∧
      chars = number ++ separator :: more ∧ AreNumbers more parts := by
  obtain ⟨number, others, hnumber, hothers, hsplit⟩ := List.forall₂_cons_right_iff.mp h
  have hne : others ≠ [] := by
    rintro rfl
    exact hparts (List.forall₂_nil_left_iff.mp hothers)
  obtain ⟨separator, more, hseparator, hchars, hmore⟩ :=
    Text.exists_of_splitOnP_eq_cons hsplit hne
  refine ⟨number, separator, more, hnumber, hseparator, hchars, ?_⟩
  rwa [AreNumbers, hmore]

end AreNumbers

theorem numbers?_eq_some_iff : numbers? word = some parts ↔ AreNumbers word.toList parts := by
  rw [numbers?, mapM_eq_some_iff]
  simp only [mapM_digitValue?_eq_some_iff, AreNumbers]

/-- Numbers between separators make up a date only in the ways of the grammar. -/
theorem isDate_of_ofNumbers? (hparts : numbers? word = some parts)
    (h : ofNumbers? parts = some date) : IsDate word date := by
  rw [numbers?_eq_some_iff] at hparts
  rw [← String.ofList_toList (s := word)]
  unfold ofNumbers? at h
  split at h
  · next y m d =>
    obtain ⟨year, a, _, hy, ha, hword, hrest⟩ := hparts.exists_cons (List.cons_ne_nil _ _)
    obtain ⟨month, b, day, hm, hb, rfl, hlast⟩ := hrest.exists_cons (List.cons_ne_nil _ _)
    split_ifs at h with hshape
    cases h
    rw [hword]
    exact .yearMonthDay (isNumber_year_iff.mpr ⟨y, hy, hshape.1, rfl⟩) ha
      (isNumber_short_iff.mpr ⟨m, hm, hshape.2.1, rfl⟩) hb
      (isNumber_short_iff.mpr ⟨d, hlast.areDigits, hshape.2.2, rfl⟩)
  · next p q =>
    obtain ⟨first, a, second, hp, ha, hword, hlast⟩ := hparts.exists_cons (List.cons_ne_nil _ _)
    rw [hword]
    split_ifs at h with hyear hshort
    · cases h
      exact .yearMonth (isNumber_year_iff.mpr ⟨p, hp, hyear.1, rfl⟩) ha
        (isNumber_short_iff.mpr ⟨q, hlast.areDigits, hyear.2, rfl⟩)
    · cases h
      exact .monthDay (isNumber_short_iff.mpr ⟨p, hp, hshort.1, rfl⟩) ha
        (isNumber_short_iff.mpr ⟨q, hlast.areDigits, hshort.2, rfl⟩)
  · next y =>
    split_ifs at h with hyear
    cases h
    exact .year (isNumber_year_iff.mpr ⟨y, hparts.areDigits, hyear, rfl⟩)
  · cases h

theorem mem_of_lookup_eq_some {β : Type} {table : List (String × β)} {b : β}
    (h : table.lookup word = some b) : (word, b) ∈ table := by
  obtain ⟨before, after, rfl, -⟩ := List.lookup_eq_some_iff.mp h
  exact List.mem_append_right _ List.mem_cons_self

/-- What is read as a date is the text of that date. -/
theorem isDate_of_ofWords? (h : ofWords? ws = some date) : IsDate (unwords ws) date := by
  unfold ofWords? at h
  split at h
  · next word =>
    rw [Text.unwords_singleton]
    simp only [Option.orElse_eq_orElse, Option.orElse_eq_or, Option.or_eq_some_iff,
      Option.bind_eq_some_iff, Option.map_eq_some_iff] at h
    rcases h with ⟨parts, hparts, h⟩ | ⟨-, ⟨number, hnumber, rfl⟩ | ⟨-, count, hcount, rfl⟩⟩
    · exact isDate_of_ofNumbers? hparts h
    · obtain ⟨before, hbefore, rfl⟩ := Option.map_eq_some_iff.mp hnumber
      obtain ⟨hlt, hname, -⟩ := List.findIdx?_eq_some_iff_getElem.mp hbefore
      exact .month (List.getElem?_eq_getElem hlt) (List.contains_iff_mem.mp hname)
    · exact .daysAway (mem_of_lookup_eq_some hcount)
  · next relative word =>
    simp only [Option.bind_eq_bind, Option.pure_def, Option.bind_eq_some_iff,
      Option.some.injEq] at h
    obtain ⟨count, hcount, u, hunit, rfl⟩ := h
    rw [Text.unwords_cons (List.cons_ne_nil _ _), Text.unwords_singleton]
    exact .periodsAway (mem_of_lookup_eq_some hcount) (mem_of_lookup_eq_some hunit)
  · cases h

end SmartDate

/-- The words that open or divide ranges, or open an interval with a count. -/
def keywords : List String := ["from", "since", "to", "until", "in", "every"]

/-- A word at which neither an interval nor the wording of a range can begin. -/
structure IsDateWord (word : String) : Prop where
  isWord : IsWord word
  not_keyword : word ∉ keywords
  adverb? : Interval.adverb? word = none
  begins : word.toList.head?.any Unicode.isWord = true

section Numeric

variable {word : String} {digit : Nat}

theorem keyword_begin : ∀ keyword ∈ keywords, keyword.toList.head?.bind digitValue? = none := by
  decide

theorem adverb_begin :
    ∀ p ∈ Interval.adverbs, p.1.toList ≠ [] ∧ p.1.toList.head?.bind digitValue? = none := by
  decide

theorem adverb?_eq_none_of_digit (h : word.toList.head?.bind digitValue? = some digit) :
    Interval.adverb? word = none := by
  rw [Interval.adverb?, List.findSome?_eq_none_iff]
  rintro ⟨name, u⟩ hname
  obtain ⟨hne, hbegin⟩ := adverb_begin _ hname
  rw [Option.map_eq_none_iff]
  by_contra hsome
  obtain ⟨rest, hrest⟩ := Option.ne_none_iff_exists'.mp hsome
  have hword := List.isPrefixOf?_eq_some_iff_append_eq.mp (Option.filter_eq_some_iff.mp hrest).1
  rw [← hword, List.head?_append_of_ne_nil _ hne, hbegin] at h
  cases h

/-- What begins with a digit is neither a word of ranges nor one of intervals. -/
theorem isDateWord_of_digit (hword : IsWord word)
    (h : word.toList.head?.bind digitValue? = some digit) : IsDateWord word where
  isWord := hword
  not_keyword hmem := by
    rw [keyword_begin word hmem] at h
    cases h
  adverb? := adverb?_eq_none_of_digit h
  begins := by
    obtain ⟨c, hc, hdigit⟩ := Option.bind_eq_some_iff.mp h
    rw [hc]
    exact Unicode.isWord_of_digitValue? hdigit

/-- What begins with a number and goes on with digits and separators is one word. -/
theorem IsNumber.isDateWord_append {least most n : Nat} {number more : List Char}
    (h : IsNumber least most number n) (hleast : 0 < least)
    (hmore : ∀ c ∈ more, IsNumeric c) : IsDateWord (String.ofList (number ++ more)) := by
  obtain ⟨digits, hdigits, hlength, -, -⟩ := h
  have hne : number ≠ [] := List.ne_nil_of_length_pos (Nat.lt_of_lt_of_le hleast hlength)
  obtain ⟨c, number, rfl⟩ := List.exists_cons_of_ne_nil hne
  obtain ⟨digit, hdigit⟩ := hdigits.exists_digitValue? List.mem_cons_self
  have hbegin : (String.ofList (c :: number ++ more)).toList.head?.bind digitValue? =
      some digit := by
    simpa using hdigit
  refine isDateWord_of_digit ⟨by simp, ?_⟩ hbegin
  rw [String.toList_ofList]
  intro d hd
  have hnumeric : IsNumeric d := List.forall_mem_append.mpr ⟨hdigits.isNumeric, hmore⟩ d hd
  exact hnumeric.isSpace_eq_false

end Numeric

namespace SmartDate

def names : List String :=
  monthNames.flatten ++ dayNames.map (·.1) ++ relativeNames.map (·.1) ++ unitNames.map (·.1)

theorem isDateWord_of_mem_names {name : String} (h : name ∈ names) : IsDateWord name := by
  have hnames : ∀ name ∈ names, (name ≠ "" ∧ name.toList.any Unicode.isSpace = false) ∧
      name ∉ keywords ∧ Interval.adverb? name = none ∧
      name.toList.head?.any Unicode.isWord = true := by
    decide +kernel
  obtain ⟨hword, hkeyword, hadverb, hbegins⟩ := hnames name h
  exact ⟨Text.isWord_iff.mpr hword, hkeyword, hadverb, hbegins⟩

theorem ofWords?_monthName :
    ∀ p ∈ monthNames.zipIdx, ∀ name ∈ p.1, ofWords? [name] = some (month (p.2 + 1)) := by
  decide +kernel

theorem ofWords?_dayName : ∀ p ∈ dayNames, ofWords? [p.1] = some (daysAway p.2) := by
  decide +kernel

theorem ofWords?_relativeName :
    ∀ p ∈ relativeNames, ∀ q ∈ unitNames, ofWords? [p.1, q.1] = some (periodsAway p.2 q.2) := by
  decide +kernel

theorem ofWords?_of_ofNumbers? {word : String} {date : SmartDate} (parts : List (List Nat))
    (hparts : numbers? word = some parts) (h : ofNumbers? parts = some date) :
    ofWords? [word] = some date := by
  simp [ofWords?, hparts, h]

end SmartDate

/-- Words that make up the text of a date and are read as that date. -/
structure AreDateWords (ws : List String) (text : String) (date : SmartDate) : Prop where
  ne_nil : ws ≠ []
  isDateWord : ∀ word ∈ ws, IsDateWord word
  text_eq : text = unwords ws
  ofWords? : SmartDate.ofWords? ws = some date

section

variable {text : String} {date : SmartDate}

theorem areDateWords_singleton (hword : IsDateWord text)
    (h : SmartDate.ofWords? [text] = some date) : AreDateWords [text] text date where
  ne_nil := List.cons_ne_nil _ _
  isDateWord _ hmem := List.mem_singleton.mp hmem ▸ hword
  text_eq := (Text.unwords_singleton text).symm
  ofWords? := h

open SmartDate in
/-- The text of a date is that of words from which the date is read. -/
theorem IsDate.exists_words (h : IsDate text date) : ∃ ws, AreDateWords ws text date := by
  cases h with
  | yearMonthDay hy ha hm hb hd =>
    obtain ⟨y, hyear, hylength, rfl⟩ := isNumber_year_iff.mp hy
    obtain ⟨m, hmonth, hmshort, rfl⟩ := isNumber_short_iff.mp hm
    obtain ⟨d, hday, hdshort, rfl⟩ := isNumber_short_iff.mp hd
    refine ⟨_, areDateWords_singleton ?_ (ofWords?_of_ofNumbers? [y, m, d] ?_ ?_)⟩
    · have htail := List.forall_mem_cons.mpr ⟨.inr hb, hday.isNumeric⟩
      have hmore := List.forall_mem_append.mpr ⟨hmonth.isNumeric, htail⟩
      exact hy.isDateWord_append (by decide) (List.forall_mem_cons.mpr ⟨.inr ha, hmore⟩)
    · rw [numbers?_eq_some_iff, String.toList_ofList]
      exact .cons hyear ha (.cons hmonth hb (.single hday))
    · simp [ofNumbers?, hylength, hmshort, hdshort]
  | yearMonth hy ha hm =>
    obtain ⟨y, hyear, hylength, rfl⟩ := isNumber_year_iff.mp hy
    obtain ⟨m, hmonth, hmshort, rfl⟩ := isNumber_short_iff.mp hm
    refine ⟨_, areDateWords_singleton ?_ (ofWords?_of_ofNumbers? [y, m] ?_ ?_)⟩
    · have hmore := List.forall_mem_cons.mpr ⟨.inr ha, hmonth.isNumeric⟩
      exact hy.isDateWord_append (by decide) hmore
    · rw [numbers?_eq_some_iff, String.toList_ofList]
      exact .cons hyear ha (.single hmonth)
    · simp [ofNumbers?, hylength, hmshort]
  | year hy =>
    obtain ⟨y, hyear, hylength, rfl⟩ := isNumber_year_iff.mp hy
    refine ⟨_, areDateWords_singleton ?_ (ofWords?_of_ofNumbers? [y] ?_ ?_)⟩
    · simpa using hy.isDateWord_append (by decide) (List.forall_mem_nil _)
    · rw [numbers?_eq_some_iff, String.toList_ofList]
      exact .single hyear
    · simp [ofNumbers?, hylength]
  | monthDay hm ha hd =>
    obtain ⟨m, hmonth, hmshort, rfl⟩ := isNumber_short_iff.mp hm
    obtain ⟨d, hday, hdshort, rfl⟩ := isNumber_short_iff.mp hd
    refine ⟨_, areDateWords_singleton ?_ (ofWords?_of_ofNumbers? [m, d] ?_ ?_)⟩
    · have hmore := List.forall_mem_cons.mpr ⟨.inr ha, hday.isNumeric⟩
      exact hm.isDateWord_append (by decide) hmore
    · rw [numbers?_eq_some_iff, String.toList_ofList]
      exact .cons hmonth ha (.single hday)
    · have hmlength : m.length ≠ 4 := by
        simp only [ofNumbers?.isShort, Bool.or_eq_true, decide_eq_true_eq] at hmshort
        omega
      simp [ofNumbers?, hmlength, hmshort, hdshort]
  | @month before names name hnames hname =>
    have hmem : (names, before) ∈ monthNames.zipIdx := List.mk_mem_zipIdx_iff_getElem?.mpr hnames
    have hread := ofWords?_monthName _ hmem _ hname
    have hword : IsDateWord text := by
      refine isDateWord_of_mem_names ?_
      simp only [SmartDate.names, List.mem_append]
      exact .inl (.inl (.inl (List.mem_flatten_of_mem (List.mem_of_getElem? hnames) hname)))
    exact ⟨_, areDateWords_singleton hword hread⟩
  | daysAway hname =>
    have hread := ofWords?_dayName _ hname
    have hword : IsDateWord text := by
      refine isDateWord_of_mem_names ?_
      simp only [SmartDate.names, List.mem_append]
      exact .inl (.inl (.inr (List.mem_map_of_mem hname)))
    exact ⟨_, areDateWords_singleton hword hread⟩
  | @periodsAway relative unit _ _ hrelative hname =>
    have hmem : relative ∈ names ∧ unit ∈ names := by
      simp only [SmartDate.names, List.mem_append]
      exact ⟨.inl (.inr (List.mem_map_of_mem hrelative)), .inr (List.mem_map_of_mem hname)⟩
    refine ⟨[relative, unit], List.cons_ne_nil _ _, ?_, ?_, ?_⟩
    · simp [isDateWord_of_mem_names hmem.1, isDateWord_of_mem_names hmem.2]
    · rw [Text.unwords_cons (List.cons_ne_nil _ _), Text.unwords_singleton]
    · exact ofWords?_relativeName _ hrelative _ hname

variable {reference s f : Date} {ws : List String} {span : Span}

theorem SmartDate.spanOfWords_eq_ok_iff :
    SmartDate.spanOfWords reference ws = .ok span ↔
      ∃ date, SmartDate.ofWords? ws = some date ∧ date.resolve reference = .ok span := by
  rw [SmartDate.spanOfWords]
  cases hdate : SmartDate.ofWords? ws with
  | none => simp
  | some date => simp

/-- Words have no other span than that of a period which their text names. -/
theorem namesPeriod_of_spanOfWords (h : SmartDate.spanOfWords reference ws = .ok span) :
    ∃ s f, NamesPeriod reference (unwords ws) s f ∧ span = ⟨some s, some f⟩ := by
  obtain ⟨date, hdate, hresolve⟩ := SmartDate.spanOfWords_eq_ok_iff.mp h
  have htext := SmartDate.isDate_of_ofWords? hdate
  obtain ⟨s, f, hdenotes, hspan⟩ := (SmartDate.resolve_eq_ok_iff htext).mp hresolve
  exact ⟨s, f, ⟨date, htext, hdenotes⟩, hspan⟩

/-- The text of a period is that of words which have the period as their span. -/
theorem NamesPeriod.exists_words (h : NamesPeriod reference text s f) :
    ∃ ws date, AreDateWords ws text date ∧
      SmartDate.spanOfWords reference ws = .ok ⟨some s, some f⟩ := by
  obtain ⟨date, htext, hdenotes⟩ := h
  obtain ⟨ws, hws⟩ := htext.exists_words
  have hresolve := (SmartDate.resolve_eq_ok_iff htext).mpr ⟨s, f, hdenotes, rfl⟩
  exact ⟨ws, date, hws, SmartDate.spanOfWords_eq_ok_iff.mpr ⟨date, hws.ofWords?, hresolve⟩⟩

end

end JournalSearch.Period
