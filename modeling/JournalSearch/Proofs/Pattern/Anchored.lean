import JournalSearch.Proofs.Pattern.Literals
import JournalSearch.Proofs.Unicode.LowerCase

/-!
Escaped texts between an anchor at the start and an end. The end of a text is also before a line end
that ends it, and where a colon will do instead, it is captured together with the end. In either
case what is left of the text after the literals decides.
-/
namespace JournalSearch.Pattern

def textEnd : List Node := [.anchor .lastLineEnd]

def colonOrEnd : List Node :=
  [.capture 1 [.choice [[literalNode .initial 0x3a], [.anchor .lastLineEnd]]]]

theorem readsAs_textEnd : ReadsAs ['$'] textEnd [] := by
  intro fuel done
  have hdone : done.reverse ++ [.anchor .lastLineEnd] = (.anchor .lastLineEnd :: done).reverse :=
    List.reverse_cons.symm
  rw [textEnd, hdone]
  rfl

theorem readsAs_colonOrEnd : ReadsAs "(:|$)".toList colonOrEnd [some ⟨0, some 1⟩] := by
  intro fuel done
  have hdone : ∀ n : Node, done.reverse ++ [n] = (n :: done).reverse :=
    fun _ => List.reverse_cons.symm
  rw [colonOrEnd, hdone]
  rfl

theorem lastLineEnd_holds_iff {text : Array Char} {position : Nat} (h : position ≤ text.size) :
    Anchor.holds text position .lastLineEnd = true ↔
      text.toList.drop position = [] ∨ text.toList.drop position = ['\n'] := by
  have hlength : text.size - position = (text.toList.drop position).length := by
    rw [List.length_drop, Array.length_toList]
  have hfirst : text[position]? = (text.toList.drop position).head? := by
    rw [List.head?_drop, Array.getElem?_toList]
  rw [Anchor.holds, Bool.or_eq_true, Bool.and_eq_true, decide_eq_true_iff, decide_eq_true_iff,
    decide_eq_true_iff, hfirst]
  cases hrest : text.toList.drop position with
  | nil =>
    rw [hrest, List.length_nil] at hlength
    have hend : position = text.size := by omega
    simp [hend]
  | cons c rest =>
    rw [hrest, List.length_cons] at hlength
    have hinside : position ≠ text.size := by omega
    have hlast : position + 1 = text.size ↔ rest = [] := by
      rw [← List.length_eq_zero_iff]
      omega
    simp [hinside, hlast, and_comm]

theorem runAll_textEnd (text : Array Char) (s : State) :
    runAll ⟨text, false, none⟩ textEnd s (fun s _ => some s) (fun _ => none) =
      if Anchor.holds text s.position .lastLineEnd then some s else none := by
  simp only [textEnd, runAll, Node.run]

theorem endsAs_textEnd : EndsAs textEnd fun rest => rest = [] ∨ rest = ['\n'] := by
  refine ⟨fun _ => rfl, ?_, ?_⟩
  · intro text s hs _
    rw [runAll_textEnd, ← lastLineEnd_holds_iff hs]
    by_cases hholds : Anchor.holds text s.position .lastLineEnd = true
    · simp [hholds]
    · simp [hholds]
  · intro text s s' hmarks h
    rw [runAll_textEnd] at h
    split_ifs at h
    cases h
    rw [State.hasCrossedGroup, hmarks]
    rfl

theorem sameLetter_colon_iff (c : Char) : sameLetter ':' c = true ↔ c = ':' := by
  have hakin : akin (Unicode.lowerCode 0x3a) = [0x3a] := by decide
  constructor
  · intro h
    have hmem : Unicode.lowerCode c.toNat ∈ akin (Unicode.lowerCode 0x3a) :=
      List.contains_iff_mem.mp h
    rw [hakin, List.mem_singleton] at hmem
    have hcode : c.toNat = 0x3a := Unicode.eq_of_lowerCode_eq hmem (by decide)
    exact Char.toNat_inj.mp hcode
  · rintro rfl
    decide

theorem passes_colon_iff {text : Array Char} {position : Nat} :
    passes text (.literal .unicode 0x3a) position = true ↔
      ∃ more, text.toList.drop position = ':' :: more := by
  rw [passes_eq]
  cases text.toList.drop position with
  | nil => simp
  | cons c rest =>
    have haccepts : (CharTest.literal .unicode 0x3a).accepts c = sameLetter ':' c := rfl
    simp [haccepts, sameLetter_colon_iff]

/-- The colon is tried first, and only where there is one. -/
theorem runAll_colonOrEnd (text : Array Char) (s : State) :
    runAll ⟨text, false, none⟩ colonOrEnd s (fun s _ => some s) (fun _ => none) =
      if passes text (.literal .unicode 0x3a) s.position then
        some ({ (s.opening 1).settle with position := s.position + 1 }.closing 1)
      else if Anchor.holds text s.position .lastLineEnd then
        some ({ (s.opening 1).settle with position := s.position }.closing 1)
      else none := by
  have hplain : (CharTest.literal .unicode 0x3a).isPlain = true := by decide
  have hfolding : Settings.initial.folding = .unicode := rfl
  have hopening : (s.opening 1).position = s.position := rfl
  have hsettled : (s.opening 1).settle.position = s.position := rfl
  simp only [colonOrEnd, literalNode, runAll, Node.run, runAny, mayMatch, firstTestOf,
    Node.firstTest, hfolding, hopening, hsettled, Option.filter_some, hplain, if_true,
    Option.all_some, Option.filter_none, Option.all_none]
  split_ifs <;> rfl

/-- The only group ends where it starts or later. -/
theorem hasCrossedGroup_closing {s : State} (hmarks : s.marks = []) {position : Nat}
    (h : s.position ≤ position) :
    ({ (s.opening 1).settle with position }.closing 1).hasCrossedGroup = false := by
  simpa [State.hasCrossedGroup, State.hasCrossedGroup.go, State.opening, State.closing,
    State.settle, State.mark, State.startMark, hmarks] using h

theorem endsAs_colonOrEnd :
    EndsAs colonOrEnd fun rest => rest = [] ∨ rest = ['\n'] ∨ ∃ more, rest = ':' :: more := by
  refine ⟨fun _ => rfl, ?_, ?_⟩
  · intro text s hs _
    rw [runAll_colonOrEnd, ← or_assoc, ← lastLineEnd_holds_iff hs, ← passes_colon_iff]
    by_cases hpasses : passes text (.literal .unicode 0x3a) s.position = true
    · simp [hpasses]
    · by_cases hholds : Anchor.holds text s.position .lastLineEnd = true
      · simp [hpasses, hholds]
      · simp [hpasses, hholds]
  · intro text s s' hmarks h
    rw [runAll_colonOrEnd] at h
    split_ifs at h
    · cases h
      exact hasCrossedGroup_closing hmarks (Nat.le_succ _)
    · cases h
      exact hasCrossedGroup_closing hmarks (Nat.le_refl _)

/-- A pattern of an anchor, an escaped text and an end. -/
theorem exists_search_anchored {ending : List Char} {after : List Node}
    {widths : List (Option Width)} {accepts : List Char → Prop}
    (hreads : ReadsAs ending after widths) (hframe : IsFrame after) (hends : EndsAs after accepts)
    (phrase : String) {pattern : String}
    (hpattern : pattern.toList = '^' :: (phrase.toList.flatMap escapeChar ++ ending)) :
    (∃ p, parse pattern = .ok p) ∧
      ∀ text, ∃ found : Bool, search pattern text = .ok found ∧
        (found = true ↔
          ∃ x rest, text.toList = x ++ rest ∧ SameText x phrase.toList ∧ accepts rest) := by
  have hanchor : IsFrame [.anchor .textStart] := ⟨rfl, rfl, rfl⟩
  have hwhole : IsFrame (.anchor .textStart :: (literals phrase.toList ++ after)) :=
    hanchor.append ((isFrame_literals phrase.toList).append hframe)
  have hnodes := (hreads.quoted phrase.toList).caret
  rw [← hpattern] at hnodes
  obtain ⟨groups, hparse⟩ := exists_parse_of_readsAs hnodes hwhole
  refine ⟨⟨_, hparse⟩, fun text => ?_⟩
  obtain ⟨found, hfound, hiff⟩ := exists_occurs_anchored hends groups phrase.toList text
  refine ⟨found, ?_, ?_⟩
  · rw [search, hparse]
    exact hfound
  · rw [hiff]
    simp only [SameText.comm (a := phrase.toList)]

end JournalSearch.Pattern
