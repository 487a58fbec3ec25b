import JournalSearch.Proofs.Expression.Spelling

/-!
The tokens of a text lose nothing of it. Each stands in a slice of the text, the slices follow one
another, and what lies between them are separators. This holds with any labels, also with empty
ones and with quotes or separators in them. What carries it along the text is how a token is
written: the shape and the value tell how long its slice is.
-/
namespace JournalSearch.Expression

namespace Token

/-- The number of characters that a token takes up: those of its value and its two quotes. -/
def width (t : Token) : Nat :=
  match t.shape with
  | .labelledQuoted | .quoted => t.value.toList.length + 2
  | .plain => t.value.toList.length

def stop (t : Token) : Nat := t.position + t.width

def slice (text : List Char) (t : Token) : List Char := (text.drop t.position).take t.width

/-- The token is written in the text at its position, as a whole term. -/
structure StandsIn (IsHead : List Char → Prop) (text : List Char) (t : Token) : Prop where
  inside : t.stop ≤ text.length
  nonempty : t.slice text ≠ []
  spells : Spells IsHead t.shape t.value.toList (t.slice text)
  starts : ∀ c ∈ (t.slice text).head?, isSeparator c = false
  ends : IsTermEnd (text.drop t.stop)

end Token

/-- The tokens take up the text, from some place on, in order and but for separators. -/
structure TilesFrom (IsHead : List Char → Prop) (text : List Char) (start : Nat)
    (ts : List Token) : Prop where
  after : ∀ t ∈ ts, start ≤ t.position
  stands : ∀ t ∈ ts, t.StandsIn IsHead text
  ordered : ts.Pairwise fun s t => s.stop ≤ t.position
  between : ∀ i c, start ≤ i → text[i]? = some c → (∀ t ∈ ts, ¬(t.position ≤ i ∧ i < t.stop)) →
    isSeparator c = true

theorem Spells.length_eq {IsHead : List Char → Prop} {shape : Shape} {value slice : List Char}
    (h : Spells IsHead shape value slice) (position : Nat) :
    slice.length = Token.width ⟨shape, String.ofList value, position⟩ := by
  cases h with
  | labelledQuoted hhead hquoted =>
    obtain ⟨-, opening, closing, -, -, rfl⟩ := hquoted
    simp [Token.width]
    omega
  | quoted hquoted =>
    obtain ⟨-, opening, closing, -, -, rfl⟩ := hquoted
    simp [Token.width]
  | plain hne hrun => simp [Token.width]

theorem TilesFrom.nil (IsHead : List Char → Prop) (text : List Char) :
    TilesFrom IsHead text text.length [] where
  after := by simp
  stands := by simp
  ordered := .nil
  between i c hi hc _ := by
    rw [List.getElem?_eq_none hi] at hc
    cases hc

theorem TilesFrom.skip {IsHead : List Char → Prop} {text : List Char} {start : Nat} {c : Char}
    {ts : List Token} (h : TilesFrom IsHead text (start + 1) ts) (hat : text[start]? = some c)
    (hc : isSeparator c = true) : TilesFrom IsHead text start ts where
  after t ht := Nat.le_of_succ_le (h.after t ht)
  stands := h.stands
  ordered := h.ordered
  between i d hi hd huncovered := by
    rcases Nat.eq_or_lt_of_le hi with rfl | hlt
    · rw [hat] at hd
      cases hd
      exact hc
    · exact h.between i d hlt hd huncovered

theorem TilesFrom.cons {IsHead : List Char → Prop} {text : List Char} {t : Token}
    {ts : List Token} (h : TilesFrom IsHead text t.stop ts) (ht : t.StandsIn IsHead text) :
    TilesFrom IsHead text t.position (t :: ts) where
  after s hs := by
    rcases List.mem_cons.mp hs with rfl | hs
    · exact Nat.le_refl _
    · exact Nat.le_trans (Nat.le_add_right _ _) (h.after s hs)
  stands := List.forall_mem_cons.mpr ⟨ht, h.stands⟩
  ordered := List.pairwise_cons.mpr ⟨h.after, h.ordered⟩
  between i c hi hc huncovered := by
    obtain ⟨hhead, htail⟩ := List.forall_mem_cons.mp huncovered
    exact h.between i c (by omega) hc htail

theorem Spells.ne_nil {IsHead : List Char → Prop} {shape : Shape} {value slice : List Char}
    (h : Spells IsHead shape value slice) : slice ≠ [] := by
  cases h with
  | labelledQuoted hhead hquoted =>
    obtain ⟨-, opening, closing, -, -, rfl⟩ := hquoted
    simp
  | quoted hquoted =>
    obtain ⟨-, opening, closing, -, -, rfl⟩ := hquoted
    simp
  | plain hne hrun => exact hne

/-- A token stands where what is left of the text begins with the slice in which it is written. -/
theorem standsIn_append {IsHead : List Char → Prop} (before : List Char) {slice rest : List Char}
    {shape : Shape} {value : List Char} (hspells : Spells IsHead shape value slice)
    (hstart : ∀ c ∈ slice.head?, isSeparator c = false) (hend : IsTermEnd rest) :
    Token.StandsIn IsHead (before ++ (slice ++ rest))
      ⟨shape, String.ofList value, before.length⟩ := by
  have hwidth := hspells.length_eq before.length
  have hstop : Token.stop ⟨shape, String.ofList value, before.length⟩ =
      (before ++ slice).length := by
    rw [Token.stop, ← hwidth, List.length_append]
  have hslice : Token.slice (before ++ (slice ++ rest))
      ⟨shape, String.ofList value, before.length⟩ = slice := by
    rw [Token.slice, List.drop_left, ← hwidth, List.take_left]
  have hdrop : (before ++ (slice ++ rest)).drop
      (Token.stop ⟨shape, String.ofList value, before.length⟩) = rest := by
    rw [hstop, ← List.append_assoc, List.drop_left]
  constructor
  · rw [hstop]
    simp
  · rw [hslice]
    exact hspells.ne_nil
  · rw [hslice, String.toList_ofList]
    exact hspells
  · rwa [hslice]
  · rwa [hdrop]

theorem tilesFrom_tokensAt (heads : List (List Char)) (text : List Char) :
    TilesFrom (· ∈ heads) text 0 (tokensAt heads 0 text) := by
  suffices h : ∀ position rest before, before.length = position → text = before ++ rest →
      TilesFrom (· ∈ heads) text position (tokensAt heads position rest) from
    h 0 text [] rfl rfl
  intro position rest
  induction position, rest using tokensAt_induction heads with
  | done position =>
    rintro before rfl htext
    rw [tokensAt, htext, List.append_nil]
    exact .nil _ before
  | skip position c cs hc ih =>
    rintro before rfl htext
    rw [tokensAt_cons_of_isSeparator heads _ cs hc]
    refine (ih (before ++ [c]) (by simp) (by simp [htext])).skip ?_ hc
    simp [htext]
  | token position c cs slice hc hspells hslice hend ih =>
    rintro before rfl htext
    rw [tokensAt_cons_of_eq_append heads _ hc hslice]
    have hstart : ∀ d ∈ slice.head?, isSeparator d = false := by
      obtain ⟨d, ds, rfl⟩ := List.exists_cons_of_ne_nil hspells.ne_nil
      rw [List.cons_append] at hslice
      simp [← (List.cons.inj hslice).1, hc]
    have hstands := standsIn_append before hspells hstart hend
    rw [← hslice, ← htext] at hstands
    refine TilesFrom.cons ?_ hstands
    rw [Token.stop, ← hspells.length_eq]
    refine ih (before ++ slice) (by simp) (htext.trans ?_)
    rw [List.append_assoc, ← hslice]

def plain? (text : List Char) : Option Lexeme :=
  if (plain text).value = [] then none else some (plain text)

/-- What is read at the start of a text in the first shape that fits and is whole, if any is. -/
def firstWhole? (heads : List (List Char)) (text : List Char) : Option Lexeme :=
  [labelledQuoted? heads text, quoted? text, plain? text].findSome? (·.filter Lexeme.isWhole)

/-- Some shape is whole at the start of each token, the plain one if no other. -/
theorem firstWhole?_eq_some_lexeme (heads : List (List Char)) {c : Char} (cs : List Char)
    (hc : isSeparator c = false) :
    firstWhole? heads (c :: cs) = some (lexeme heads (c :: cs)) := by
  rw [firstWhole?]
  rcases lexeme_cases heads (c :: cs) with hlabelled | ⟨hnone, hquoted | ⟨hnone', hplain⟩⟩
  · simp [hlabelled]
  · simp [hnone, hquoted]
  · have hne : (plain (c :: cs)).value ≠ [] := by simp [plain, hc]
    have hread : plain? (c :: cs) = some (plain (c :: cs)) := if_neg hne
    obtain ⟨slice, -, -, hend⟩ := begins_plain (· ∈ heads) cs hc
    have hwhole := (isWhole_iff _).mpr hend
    simp [hnone, hnone', hread, hwhole, hplain]

/-- The tokens of a text with any labels, without loss: at each place where one is read, some
shape fits. -/
theorem tilesFrom_tokens (labels : List String) (text : String) :
    TilesFrom (· ∈ heads labels) text.toList 0 (tokens labels text) ∧
      ∀ c cs, isSeparator c = false →
        firstWhole? (heads labels) (c :: cs) = some (lexeme (heads labels) (c :: cs)) :=
  ⟨tilesFrom_tokensAt (heads labels) text.toList,
    fun _ cs hc => firstWhole?_eq_some_lexeme (heads labels) cs hc⟩

end JournalSearch.Expression
