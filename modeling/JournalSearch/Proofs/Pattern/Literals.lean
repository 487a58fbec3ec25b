import JournalSearch.Pattern.Search
import JournalSearch.Proofs.Pattern.Quoting
import Mathlib.Data.List.Forall2

/-!
Matching literals. A literal is passed by the characters that are the same letter as its own, so
literals in a row are passed by the texts that have the same letters. If they are anchored at the
start, what follows them meets the text where its first characters, as many as there are literals,
end.
-/
namespace JournalSearch.Pattern

/-! Texts with the same letters -/

/-- No character is akin to two kinds of others. -/
theorem mem_akin_comm {a b : Nat} : b ∈ akin a ↔ a ∈ akin b := by
  have hclass : ∀ akins ∈ akinClasses, ∀ code ∈ akins, akin code = akins := by
    decide
  have hswap : ∀ a b, b ∈ akin a → a ∈ akin b := by
    intro a b hb
    rw [akin] at hb
    cases hfind : akinClasses.find? (·.contains a) with
    | none =>
      rw [hfind, Option.getD_none, List.mem_singleton] at hb
      subst hb
      rw [akin, hfind]
      exact List.mem_singleton_self b
    | some akins =>
      rw [hfind, Option.getD_some] at hb
      have hmem := List.mem_of_find?_eq_some hfind
      have ha : a ∈ akins := by simpa using List.find?_some hfind
      rwa [hclass akins hmem b hb]
  exact ⟨hswap a b, hswap b a⟩

theorem sameLetter_comm (c d : Char) : sameLetter c d = sameLetter d c := by
  rw [Bool.eq_iff_iff]
  simp only [sameLetter, Folding.same, List.contains_iff_mem]
  exact mem_akin_comm

def SameText (a b : List Char) : Prop := List.Forall₂ (fun c d => sameLetter c d = true) a b

theorem SameText.symm {a b : List Char} (h : SameText a b) : SameText b a := by
  refine List.Forall₂.flip (h.imp fun c d hcd => ?_)
  change sameLetter d c = true
  rwa [sameLetter_comm]

theorem SameText.comm {a b : List Char} : SameText a b ↔ SameText b a := ⟨.symm, .symm⟩

theorem startsWith_iff {phrase text : List Char} :
    startsWith phrase text = true ↔ ∃ x rest, text = x ++ rest ∧ SameText phrase x := by
  induction phrase generalizing text with
  | nil =>
    refine ⟨fun _ => ⟨[], text, rfl, .nil⟩, fun _ => ?_⟩
    rw [startsWith]
  | cons c phrase ih =>
    cases text with
    | nil =>
      constructor
      · intro h
        cases h
      · rintro ⟨x, rest, htext, hx⟩
        cases hx with
        | cons => cases htext
    | cons d text =>
      rw [startsWith, Bool.and_eq_true, ih]
      constructor
      · rintro ⟨hfirst, x, rest, rfl, hx⟩
        exact ⟨d :: x, rest, rfl, .cons hfirst hx⟩
      · rintro ⟨_, rest, htext, hx⟩
        cases hx with
        | cons hfirst hx =>
          injection htext with hd htext
          exact ⟨hd ▸ hfirst, _, rest, htext, hx⟩

/-- A text can be split in one way only. -/
theorem exists_split_iff {phrase text x rest : List Char} {accepts : List Char → Prop}
    (htext : text = x ++ rest) (hx : SameText phrase x) :
    (∃ y rest', text = y ++ rest' ∧ SameText phrase y ∧ accepts rest') ↔ accepts rest := by
  constructor
  · rintro ⟨y, rest', htext', hy, haccepts⟩
    have hsplit : y ++ rest' = x ++ rest := htext'.symm.trans htext
    have hlength : y.length = x.length := hy.length_eq.symm.trans hx.length_eq
    rwa [(List.append_inj hsplit hlength).2] at haccepts
  · intro haccepts
    exact ⟨x, rest, htext, hx, haccepts⟩

/-! Literals in a row -/

theorem passes_eq (text : Array Char) (t : CharTest) (position : Nat) :
    passes text t position = (text.toList.drop position).head?.any t.accepts := by
  rw [passes, List.head?_drop, Array.getElem?_toList]

theorem runAll_one (c : Context) (t : CharTest) (nodes : List Node) (s : State) (goal : Goal)
    (resume : Resume) :
    runAll c (.one t :: nodes) s goal resume =
      if passes c.text t s.position then
        runAll c nodes { s with position := s.position + 1 } goal resume
      else resume s := by
  rw [runAll, Node.run]

/-- Literals are passed by the text that starts with them. -/
theorem runAll_literals (c : Context) (phrase : List Char) (nodes : List Node) (s : State)
    (goal : Goal) :
    runAll c (literals phrase ++ nodes) s goal (fun _ => none) =
      if startsWith phrase (c.text.toList.drop s.position) then
        runAll c nodes { s with position := s.position + phrase.length } goal fun _ => none
      else none := by
  induction phrase generalizing s with
  | nil => simp [literals, startsWith]
  | cons d phrase ih =>
    have hliteral : literalNode .initial d.toNat = .one (.literal .unicode d.toNat) := rfl
    rw [literals_cons, List.cons_append, hliteral, runAll_one, passes_eq]
    have htail : c.text.toList.drop (s.position + 1) = (c.text.toList.drop s.position).tail :=
      List.tail_drop.symm
    simp only [ih, htail]
    cases c.text.toList.drop s.position with
    | nil => rfl
    | cons e text =>
      have haccepts : (CharTest.literal .unicode d.toNat).accepts e = sameLetter d e := rfl
      simp only [List.head?_cons, Option.any_some, haccepts, startsWith, List.tail_cons,
        List.length_cons, Bool.and_eq_true]
      by_cases hfirst : sameLetter d e = true
      · simp [hfirst, Nat.add_assoc, Nat.add_comm 1]
      · simp [hfirst]

/-! Positions that are tried -/

/-- No position is passed over from which enough characters are left. -/
theorem lt_starts {p : Pattern} {size position : Nat} (h : position + p.width.least ≤ size) :
    position < p.starts size := by
  rw [starts]
  split_ifs with hshort
  · omega
  · omega
  · omega

theorem starts_pos_iff {p : Pattern} {size : Nat} : 0 < p.starts size ↔ p.width.least ≤ size := by
  constructor
  · intro hpos
    by_contra hlong
    rw [starts, if_pos (by omega)] at hpos
    omega
  · intro hlong
    exact lt_starts (by omega)

/-! Anchored patterns -/

/-- A pattern that is anchored at the start is tried there only. -/
theorem firstMatch?_textStart (nodes : List Node) (width : Width) (text : Array Char) :
    Pattern.firstMatch? ⟨.anchor .textStart :: nodes, width⟩ text =
      if width.least ≤ text.size then
        runAll ⟨text, false, none⟩ nodes (.initial 0) (fun s _ => some s) fun _ => none
      else none := by
  have hfirst : matchAt? (.anchor .textStart :: nodes) text 0 =
      runAll ⟨text, false, none⟩ nodes (.initial 0) (fun s _ => some s) fun _ => none := by
    rw [matchAt?, runAll, Node.run]
    rfl
  have hlater : ∀ position, matchAt? (.anchor .textStart :: nodes) text (position + 1) = none := by
    intro position
    rw [matchAt?, runAll, Node.run]
    rfl
  have hpos := @starts_pos_iff ⟨.anchor .textStart :: nodes, width⟩ text.size
  simp only at hpos
  rw [firstMatch?]
  cases hcount : starts ⟨.anchor .textStart :: nodes, width⟩ text.size with
  | zero =>
    rw [hcount] at hpos
    rw [if_neg (by omega)]
    rfl
  | succ count =>
    rw [hcount] at hpos
    have hrest : (List.map Nat.succ (List.range count)).findSome?
        (matchAt? (.anchor .textStart :: nodes) text) = none := by
      rw [List.findSome?_eq_none_iff]
      intro position hposition
      obtain ⟨earlier, -, rfl⟩ := List.mem_map.mp hposition
      exact hlater earlier
    rw [if_pos (by omega), List.range_succ_eq_map, List.findSome?_cons, hfirst, hrest]
    split
    · next hmatch => exact hmatch.symm
    · next hmatch => exact hmatch.symm

/-- The nodes match where the rest of the text is accepted and nowhere else. They may do so without
characters, and leave no group that starts after its end. -/
structure EndsAs (after : List Node) (accepts : List Char → Prop) : Prop where
  least_width : ∀ groups, (widthOf groups after).least = 0
  isSome_iff : ∀ (text : Array Char) (s : State), s.position ≤ text.size → s.marks = [] →
    ((runAll ⟨text, false, none⟩ after s (fun s _ => some s) fun _ => none).isSome = true ↔
      accepts (text.toList.drop s.position))
  uncrossed : ∀ (text : Array Char) (s s' : State), s.marks = [] →
    runAll ⟨text, false, none⟩ after s (fun s _ => some s) (fun _ => none) = some s' →
      s'.hasCrossedGroup = false

/-- Literals that are anchored at the start stand there, and the rest is left to what follows. -/
theorem exists_occurs_anchored {after : List Node} {accepts : List Char → Prop}
    (h : EndsAs after accepts) (groups : Nat → Width) (phrase : List Char) (text : String) :
    ∃ found : Bool,
      Pattern.occurs ⟨.anchor .textStart :: (literals phrase ++ after),
        widthOf groups (.anchor .textStart :: (literals phrase ++ after))⟩ text = .ok found ∧
      (found = true ↔
        ∃ x rest, text.toList = x ++ rest ∧ SameText phrase x ∧ accepts rest) := by
  have hwidth : (widthOf groups (.anchor .textStart :: (literals phrase ++ after))).least =
      phrase.length := by
    rw [widthOf, Width.add, least_widthOf_append, least_widthOf_literals, h.least_width]
    exact Nat.zero_add _
  rw [Pattern.occurs, firstMatch?_textStart, hwidth, runAll_literals]
  simp only [State.initial, List.drop_zero, Nat.zero_add, List.size_toArray]
  by_cases hstarts : startsWith phrase text.toList = true
  · obtain ⟨x, rest, htext, hx⟩ := startsWith_iff.mp hstarts
    have hlength : phrase.length = x.length := hx.length_eq
    have hfits : phrase.length ≤ text.toList.length := by
      rw [htext, hlength, List.length_append]
      exact Nat.le_add_right _ _
    have hrest : text.toList.drop phrase.length = rest := by
      rw [htext, hlength, List.drop_left]
    have hsome := h.isSome_iff text.toList.toArray ⟨phrase.length, 0, []⟩ hfits rfl
    rw [hrest] at hsome
    rw [if_pos hfits, if_pos hstarts, exists_split_iff htext hx, ← hsome]
    cases hrun : runAll ⟨text.toList.toArray, false, none⟩ after ⟨phrase.length, 0, []⟩
        (fun s _ => some s) fun _ => none with
    | none => exact ⟨false, rfl, by simp⟩
    | some s =>
      have huncrossed := h.uncrossed _ _ _ rfl hrun
      refine ⟨true, ?_, by simp⟩
      simp only [huncrossed]
      rfl
  · refine ⟨false, ?_, ?_⟩
    · rw [if_neg hstarts]
      split_ifs <;> rfl
    · simp only [Bool.false_eq_true, false_iff]
      rintro ⟨x, rest, htext, hx, -⟩
      exact hstarts (startsWith_iff.mpr ⟨x, rest, htext, hx⟩)

end JournalSearch.Pattern
