import JournalSearch.Proofs.Unicode.LowerCase
import JournalSearch.Text.Basic
import Mathlib.Data.List.Basic

/-!
Words and the texts that they make up with single blanks between them. The words of a text are not
empty and have no white space, and lists of such words make up different texts, since they are the
words of the texts that they make up.
-/
namespace JournalSearch.Text

open Unicode (isSpace IsUncased)

def IsWord (word : String) : Prop := word ≠ "" ∧ ∀ c ∈ word.toList, isSpace c = false

theorem isWord_iff {word : String} :
    IsWord word ↔ word ≠ "" ∧ word.toList.any isSpace = false := by
  simp [IsWord, List.any_eq_false]

/-- The text in lower case, with single blanks between its words and none around them. -/
def normalize (text : String) : String := unwords (lowerWords text)

/-- What stands between separators has none. -/
theorem not_of_mem_splitOnP {α : Type} {p : α → Bool} {l part : List α}
    (h : part ∈ l.splitOnP p) : ∀ a ∈ part, p a = false := by
  induction l generalizing part with
  | nil =>
    rw [List.splitOnP_nil, List.mem_singleton] at h
    simp [h]
  | cons a l ih =>
    rw [List.splitOnP_cons_eq_if_modifyHead] at h
    split_ifs at h with ha
    · rcases List.mem_cons.mp h with rfl | h
      · simp
      · exact ih h
    · obtain ⟨first, rest, hsplit⟩ := List.exists_cons_of_ne_nil (List.splitOnP_ne_nil p l)
      rw [hsplit] at ih h
      rw [List.modifyHead_cons] at h
      rcases List.mem_cons.mp h with rfl | h
      · have hfirst := ih List.mem_cons_self
        have ha' : p a = false := by simpa using ha
        exact List.forall_mem_cons.mpr ⟨ha', hfirst⟩
      · exact ih (List.mem_cons_of_mem _ h)

/-- The only part of a text that is not split is the text. -/
theorem eq_of_splitOnP_eq_singleton {α : Type} {p : α → Bool} {l only : List α}
    (h : l.splitOnP p = [only]) : l = only := by
  induction l generalizing only with
  | nil =>
    rw [List.splitOnP_nil] at h
    exact List.singleton_inj.mp h
  | cons a l ih =>
    rw [List.splitOnP_cons_eq_if_modifyHead] at h
    obtain ⟨part, parts, hsplit⟩ := List.exists_cons_of_ne_nil (List.splitOnP_ne_nil p l)
    split_ifs at h with ha
    · rw [hsplit] at h
      cases h
    · rw [hsplit, List.modifyHead_cons] at h
      obtain ⟨rfl, rfl⟩ := List.cons.inj h
      rw [ih hsplit]

/-- The first part of what separators split, the separator and what follows it. -/
theorem exists_of_splitOnP_eq_cons {α : Type} {p : α → Bool} {l first : List α}
    {rest : List (List α)} (h : l.splitOnP p = first :: rest) (hrest : rest ≠ []) :
    ∃ a after, p a = true ∧ l = first ++ a :: after ∧ after.splitOnP p = rest := by
  induction l generalizing first with
  | nil =>
    rw [List.splitOnP_nil] at h
    exact absurd (List.cons.inj h).2.symm hrest
  | cons b l ih =>
    rw [List.splitOnP_cons_eq_if_modifyHead] at h
    split_ifs at h with hb
    · obtain ⟨rfl, rfl⟩ := List.cons.inj h
      exact ⟨b, l, hb, rfl, rfl⟩
    · obtain ⟨part, parts, hsplit⟩ := List.exists_cons_of_ne_nil (List.splitOnP_ne_nil p l)
      rw [hsplit, List.modifyHead_cons] at h
      obtain ⟨rfl, rfl⟩ := List.cons.inj h
      obtain ⟨a, after, ha, hl, hafter⟩ := ih hsplit
      exact ⟨a, after, ha, by rw [hl, List.cons_append], hafter⟩

theorem isWord_of_mem_words {text : List Char} {word : String} (h : word ∈ words text) :
    IsWord word := by
  obtain ⟨part, hpart, rfl⟩ := List.mem_map.mp h
  obtain ⟨hsplit, hne⟩ := List.mem_filter.mp hpart
  refine ⟨?_, ?_⟩
  · intro hempty
    have hnil := String.toList_eq_nil_iff.mpr hempty
    rw [String.toList_ofList] at hnil
    simp [hnil] at hne
  · rw [String.toList_ofList]
    exact not_of_mem_splitOnP hsplit

theorem unwords_singleton (word : String) : unwords [word] = word := by
  simp [unwords]

theorem unwords_cons {ws : List String} (hws : ws ≠ []) (word : String) :
    unwords (word :: ws) = word ++ " " ++ unwords ws :=
  String.intercalate_cons_of_ne_nil hws

theorem unwords_append {ws more : List String} (hws : ws ≠ []) (hmore : more ≠ []) :
    unwords (ws ++ more) = unwords ws ++ " " ++ unwords more :=
  String.intercalate_append_of_ne_nil hws hmore

/-- The first word of a text ends where white space comes. -/
theorem words_append_cons {word : String} (hword : IsWord word) {c : Char} (hc : isSpace c = true)
    (rest : List Char) : words (word.toList ++ c :: rest) = word :: words rest := by
  have hne : word.toList ≠ [] := fun hnil => hword.1 (String.toList_eq_nil_iff.mp hnil)
  rw [words, List.splitOnP_append_cons_of_forall_mem hword.2 _ hc,
    List.filter_cons_of_pos (by simpa using hne), List.map_cons, String.ofList_toList, words]

theorem words_toList {word : String} (hword : IsWord word) : words word.toList = [word] := by
  have hne : word.toList ≠ [] := fun hnil => hword.1 (String.toList_eq_nil_iff.mp hnil)
  rw [words, List.splitOnP_eq_singleton hword.2, List.filter_cons_of_pos (by simpa using hne),
    List.filter_nil, List.map_singleton, String.ofList_toList]

/-- White space in front of a text does not matter. -/
theorem words_cons_of_isSpace {c : Char} (hc : isSpace c = true) (rest : List Char) :
    words (c :: rest) = words rest := by
  rw [words, List.splitOnP_cons_eq_if_modifyHead, if_pos hc, List.filter_cons_of_neg (by simp),
    words]

/-- The first word of a text that begins with a word reaches to the next white space. -/
theorem words_append {word : String} (hword : IsWord word) (rest : List Char) :
    words (word.toList ++ rest) =
      String.ofList (word.toList ++ rest.takeWhile (!isSpace ·)) ::
        words (rest.dropWhile (!isSpace ·)) := by
  have hfirst : IsWord (String.ofList (word.toList ++ rest.takeWhile (!isSpace ·))) := by
    refine ⟨by simp [hword.1], ?_⟩
    rw [String.toList_ofList]
    refine List.forall_mem_append.mpr ⟨hword.2, fun c hc => ?_⟩
    simpa using List.all_eq_true.mp List.all_takeWhile c hc
  have hwhole : word.toList ++ rest =
      (String.ofList (word.toList ++ rest.takeWhile (!isSpace ·))).toList ++
        rest.dropWhile (!isSpace ·) := by
    rw [String.toList_ofList, List.append_assoc, List.takeWhile_append_dropWhile]
  rw [hwhole]
  cases hafter : rest.dropWhile (!isSpace ·) with
  | nil =>
    rw [List.append_nil, words_toList hfirst]
    rfl
  | cons c after =>
    have hc : isSpace c = true := by
      have hstop := List.head?_dropWhile_not (!isSpace ·) rest
      simpa [hafter] using hstop
    rw [words_append_cons hfirst hc, words_cons_of_isSpace hc]

theorem toList_append_blank (word text : String) :
    (word ++ " " ++ text).toList = word.toList ++ ' ' :: text.toList := by
  have hblank : " ".toList = [' '] := by decide
  rw [String.append_assoc, String.toList_append, String.toList_append, hblank,
    List.singleton_append]

theorem words_append_blank {word : String} (hword : IsWord word) (text : String) :
    words (word ++ " " ++ text).toList = word :: words text.toList := by
  rw [toList_append_blank, words_append_cons hword (by decide)]

theorem toList_unwords_cons {ws : List String} (hws : ws ≠ []) (word : String) :
    (unwords (word :: ws)).toList = word.toList ++ ' ' :: (unwords ws).toList := by
  rw [unwords_cons hws, toList_append_blank]

/-- The words of the text that words make up. -/
theorem words_unwords {ws : List String} (hws : ∀ word ∈ ws, IsWord word) :
    words (unwords ws).toList = ws := by
  induction ws with
  | nil => rfl
  | cons word ws ih =>
    obtain ⟨hword, hws⟩ := List.forall_mem_cons.mp hws
    by_cases hnil : ws = []
    · rw [hnil, unwords_singleton, words_toList hword]
    · rw [unwords_cons hnil, words_append_blank hword, ih hws]

/-- Words can be told from the text that they make up. -/
theorem unwords_inj {ws ws' : List String} (hws : ∀ word ∈ ws, IsWord word)
    (hws' : ∀ word ∈ ws', IsWord word) (h : unwords ws = unwords ws') : ws = ws' := by
  rw [← words_unwords hws, h, words_unwords hws']

theorem forall_mem_unwords {P : Char → Prop} (hblank : P ' ') {ws : List String}
    (hws : ∀ word ∈ ws, ∀ c ∈ word.toList, P c) : ∀ c ∈ (unwords ws).toList, P c := by
  induction ws with
  | nil => exact List.forall_mem_nil P
  | cons word ws ih =>
    obtain ⟨hword, hws⟩ := List.forall_mem_cons.mp hws
    by_cases hnil : ws = []
    · rwa [hnil, unwords_singleton]
    · rw [toList_unwords_cons hnil]
      exact List.forall_mem_append.mpr ⟨hword, List.forall_mem_cons.mpr ⟨hblank, ih hws⟩⟩

/-- A word of ASCII without capitals. -/
structure IsPlainWord (word : String) : Prop where
  isWord : IsWord word
  isUncased : ∀ c ∈ word.toList, IsUncased c

/-- Plain words make up a text that is normal already. -/
theorem normalize_unwords {ws : List String} (hws : ∀ word ∈ ws, IsPlainWord word) :
    normalize (unwords ws) = unwords ws := by
  have huncased : ∀ c ∈ (unwords ws).toList, IsUncased c :=
    forall_mem_unwords (by decide) fun word hword => (hws word hword).isUncased
  rw [normalize, lowerWords, Unicode.lowerText_eq_self huncased,
    words_unwords fun word hword => (hws word hword).isWord]

end JournalSearch.Text
