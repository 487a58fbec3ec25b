import JournalSearch.Proofs.Outcome
import JournalSearch.Proofs.Pattern.Literals

/-!
Escaped texts anywhere in a text. An escaped text is a pattern of literals only, and these match at
a position if the text goes on with their letters there. No position from which enough characters
are left is passed over, so an escaped text is found where the text itself stands. The search for a
text that is no well-formed pattern comes down to this, and so it never fails.
-/
namespace JournalSearch.Pattern

/-- Some stretch of the text is as long as the phrase, and has the same letters. -/
def FoundIn (phrase text : List Char) : Prop :=
  ∃ before stretch after, text = before ++ stretch ++ after ∧ SameText stretch phrase

theorem foundIn_iff {phrase text : List Char} :
    FoundIn phrase text ↔ ∃ before rest, text = before ++ rest ∧ startsWith phrase rest = true := by
  constructor
  · rintro ⟨before, stretch, after, htext, hstretch⟩
    rw [List.append_assoc] at htext
    exact ⟨before, stretch ++ after, htext, startsWith_iff.mpr ⟨stretch, after, rfl, hstretch.symm⟩⟩
  · rintro ⟨before, rest, htext, hrest⟩
    obtain ⟨stretch, after, rfl, hstretch⟩ := startsWith_iff.mp hrest
    rw [← List.append_assoc] at htext
    exact ⟨before, stretch, after, htext, hstretch.symm⟩

theorem occursIn_iff {phrase text : List Char} :
    occursIn phrase text = true ↔ FoundIn phrase text := by
  rw [foundIn_iff]
  induction text with
  | nil =>
    rw [occursIn]
    constructor
    · intro h
      exact ⟨[], [], rfl, h⟩
    · rintro ⟨before, rest, htext, hrest⟩
      obtain ⟨-, rfl⟩ := List.append_eq_nil_iff.mp htext.symm
      exact hrest
  | cons d text ih =>
    rw [occursIn, Bool.or_eq_true, ih]
    constructor
    · rintro (h | ⟨before, rest, rfl, hrest⟩)
      · exact ⟨[], d :: text, rfl, h⟩
      · exact ⟨d :: before, rest, rfl, hrest⟩
    · rintro ⟨before, rest, htext, hrest⟩
      cases before with
      | nil =>
        rw [List.nil_append] at htext
        exact .inl (htext ▸ hrest)
      | cons e before =>
        injection htext with _ htext
        exact .inr ⟨before, rest, htext, hrest⟩

/-! The search for literals -/

theorem matchAt?_literals (phrase : List Char) (text : Array Char) (position : Nat) :
    matchAt? (literals phrase) text position =
      if startsWith phrase (text.toList.drop position) then
        some ⟨position + phrase.length, position, []⟩
      else none := by
  have hrun := runAll_literals ⟨text, false, none⟩ phrase [] (.initial position) fun s _ => some s
  rw [List.append_nil] at hrun
  rw [matchAt?, hrun]
  rfl

theorem isSome_firstMatch?_literals_iff {phrase : List Char} {width : Width}
    (hwidth : width.least = phrase.length) (text : Array Char) :
    (Pattern.firstMatch? ⟨literals phrase, width⟩ text).isSome = true ↔
      FoundIn phrase text.toList := by
  rw [Pattern.firstMatch?, List.findSome?_isSome_iff, foundIn_iff]
  simp only [List.mem_range, matchAt?_literals]
  constructor
  · rintro ⟨position, -, hmatch⟩
    refine ⟨text.toList.take position, text.toList.drop position, ?_, ?_⟩
    · exact (List.take_append_drop position text.toList).symm
    · by_contra hstarts
      rw [if_neg hstarts] at hmatch
      cases hmatch
  · rintro ⟨before, rest, htext, hstarts⟩
    obtain ⟨stretch, after, hrest, hstretch⟩ := startsWith_iff.mp hstarts
    have hsize : text.size = before.length + (phrase.length + after.length) := by
      rw [← Array.length_toList, htext, hrest, List.length_append, List.length_append,
        hstretch.length_eq]
    refine ⟨before.length, lt_starts ?_, ?_⟩
    · change before.length + width.least ≤ text.size
      omega
    · rw [htext, List.drop_left, if_pos hstarts]
      rfl

/-- Literals capture nothing, so no group starts after its end. -/
theorem hasCrossedGroup_of_firstMatch?_literals {phrase : List Char} {width : Width}
    {text : Array Char} {s : State}
    (h : Pattern.firstMatch? ⟨literals phrase, width⟩ text = some s) :
    s.hasCrossedGroup = false := by
  rw [Pattern.firstMatch?] at h
  obtain ⟨position, -, hmatch⟩ := List.exists_of_findSome?_eq_some h
  rw [matchAt?_literals] at hmatch
  split_ifs at hmatch
  cases hmatch
  rfl

theorem occurs_literals {phrase : List Char} {width : Width}
    (hwidth : width.least = phrase.length) (text : String) :
    Pattern.occurs ⟨literals phrase, width⟩ text = .ok (occursIn phrase text.toList) := by
  have hfound := isSome_firstMatch?_literals_iff hwidth text.toList.toArray
  rw [← occursIn_iff] at hfound
  rw [Pattern.occurs]
  cases hmatch : Pattern.firstMatch? ⟨literals phrase, width⟩ text.toList.toArray with
  | none =>
    have habsent : occursIn phrase text.toList = false := by
      rw [Bool.eq_false_iff, ne_eq, ← hfound, hmatch]
      exact Bool.false_ne_true
    rw [habsent]
  | some s =>
    have hpresent : occursIn phrase text.toList = true := hfound.mp (hmatch ▸ rfl)
    have huncrossed := hasCrossedGroup_of_firstMatch?_literals hmatch
    simp only [hpresent, huncrossed]
    rfl

/-! The search for escaped texts -/

theorem readsAs_nil : ReadsAs [] [] [] := by
  intro fuel done
  rw [List.append_nil]
  rfl

theorem exists_parse_escape (phrase : String) :
    ∃ width : Width, width.least = phrase.toList.length ∧
      parse (escape phrase) = .ok ⟨literals phrase.toList, width⟩ := by
  have hreads := readsAs_nil.quoted phrase.toList
  have hescaped : (escape phrase).toList = phrase.toList.flatMap escapeChar := by
    rw [escape, String.toList_ofList]
  rw [List.append_nil, List.append_nil, ← hescaped] at hreads
  obtain ⟨groups, hparse⟩ := exists_parse_of_readsAs hreads (isFrame_literals phrase.toList)
  exact ⟨_, least_widthOf_literals groups phrase.toList, hparse⟩

theorem searchWellFormed_escape (phrase text : String) :
    searchWellFormed (escape phrase) text = .ok (occursIn phrase.toList text.toList) := by
  obtain ⟨width, hwidth, hparse⟩ := exists_parse_escape phrase
  rw [searchWellFormed, hparse]
  change (Pattern.occurs _ text).mapError Refusal.fault = _
  rw [occurs_literals hwidth]
  rfl

/-- To look for a malformed pattern as it stands is to search for it once it has been escaped. -/
theorem searchOrEscape_eq (pattern text : String) :
    searchOrEscape pattern text = (search pattern text).mapError .fault := by
  rw [searchOrEscape, searchWellFormed_escape, searchWellFormed, search]
  cases parse pattern with
  | error why =>
    cases why with
    | malformed => rfl
    | fault f => rfl
  | ok p =>
    cases hoccurs : p.occurs text with
    | error f =>
      simp only [bind, Except.bind, hoccurs]
      rfl
    | ok found =>
      simp only [bind, Except.bind, hoccurs]
      rfl

theorem searchOrEscape_eq_ok_iff {pattern text : String} {found : Bool} :
    searchOrEscape pattern text = .ok found ↔ search pattern text = .ok found := by
  rw [searchOrEscape_eq, Outcome.mapError_eq_ok_iff]

/-- An escaped text is a pattern, and the search finds it where the text itself stands. A text that
is no well-formed pattern is escaped and found so, which means that the search for it, too, always
has an answer. -/
theorem search_literally (phrase text : String) :
    (∃ found : Bool, searchWellFormed (escape phrase) text = .ok found ∧
        search (escape phrase) text = .ok found ∧
        (found = true ↔ FoundIn phrase.toList text.toList)) ∧
      (parse phrase = .error .malformed →
        ∃ found : Bool, searchOrEscape phrase text = .ok found ∧
          search phrase text = .ok found ∧
          (found = true ↔ FoundIn phrase.toList text.toList)) := by
  have hescape := searchWellFormed_escape phrase text
  constructor
  · have hfound : searchOrEscape (escape phrase) text =
        .ok (occursIn phrase.toList text.toList) := by
      rw [searchOrEscape, hescape]
    exact ⟨_, hescape, searchOrEscape_eq_ok_iff.mp hfound, occursIn_iff⟩
  · intro hmalformed
    have hfirst : searchWellFormed phrase text = .error .malformed := by
      rw [searchWellFormed, hmalformed]
      rfl
    have hfound : searchOrEscape phrase text = .ok (occursIn phrase.toList text.toList) := by
      rw [searchOrEscape, hfirst]
      exact hescape
    exact ⟨_, hfound, searchOrEscape_eq_ok_iff.mp hfound, occursIn_iff⟩

/-- The set is not closed, so the bracket is looked for as a bracket. -/
theorem search_literally_open_bracket :
    parse "[x" = .error .malformed ∧ searchOrEscape "[x" "a[X" = .ok true ∧
      search "[x" "a[X" = .ok true := by
  have hmalformed : parse "[x" = .error .malformed := rfl
  have hstands : FoundIn "[x".toList "a[X".toList :=
    ⟨['a'], ['[', 'X'], [], rfl, .cons (by decide) (.cons (by decide) .nil)⟩
  obtain ⟨found, hescaped, hsearch, hfound⟩ := (search_literally "[x" "a[X").2 hmalformed
  obtain rfl : found = true := hfound.mpr hstands
  exact ⟨hmalformed, hescaped, hsearch⟩

end JournalSearch.Pattern
