import JournalSearch.Proofs.Expression.Spelling

/-!
The grammar of tokens. At the start of a token the shapes are tried in order, and the first in
which the text begins with a token followed by a separator or by nothing is taken. The relation
`Lexes` reads a whole text so and says nothing about the order in which heads are tried; with
labels that are not empty and have no quotes, the tokens of a text are what it reads.
-/
namespace JournalSearch.Expression

def Shape.earlier : Shape → List Shape
  | labelledQuoted => []
  | quoted => [labelledQuoted]
  | plain => [labelledQuoted, quoted]

/-- The text begins with this token, and with none of an earlier shape. -/
structure Reads (IsHead : List Char → Prop) (text : List Char) (l : Lexeme) : Prop where
  begins : Begins IsHead text l
  first : ∀ l', Begins IsHead text l' → l'.shape ∉ l.shape.earlier

/-- Reading a text before which that many characters stand. Separators are passed over, and each
other character starts a token. -/
inductive Lexes (IsHead : List Char → Prop) : Nat → List Char → List Token → Prop
  | done {position : Nat} : Lexes IsHead position [] []
  | skip {position : Nat} {c : Char} {text : List Char} {ts : List Token}
      (hc : isSeparator c = true) (hrest : Lexes IsHead (position + 1) text ts) :
      Lexes IsHead position (c :: text) ts
  | token {position : Nat} {c : Char} {text slice : List Char} {l : Lexeme} {ts : List Token}
      (hc : isSeparator c = false) (hread : Reads IsHead (c :: text) l)
      (hslice : c :: text = slice ++ l.rest)
      (hrest : Lexes IsHead (position + slice.length) l.rest ts) :
      Lexes IsHead position (c :: text) (⟨l.shape, String.ofList l.value, position⟩ :: ts)

theorem Shape.eq_or_mem_earlier (s t : Shape) : s = t ∨ s ∈ t.earlier ∨ t ∈ s.earlier := by
  cases s <;> cases t <;> decide

theorem Reads.eq {IsHead : List Char → Prop} (hfree : QuoteFree IsHead) {text : List Char}
    {l l' : Lexeme} (h : Reads IsHead text l) (h' : Reads IsHead text l') : l = l' := by
  rcases Shape.eq_or_mem_earlier l.shape l'.shape with hshape | hearlier | hearlier
  · exact h.begins.eq_of_shape_eq hfree h'.begins hshape
  · exact absurd hearlier (h'.first l h.begins)
  · exact absurd hearlier (h.first l' h'.begins)

theorem filter_labelledQuoted?_of_begins {heads : List (List Char)}
    (hfree : QuoteFree (· ∈ heads)) {text value rest : List Char}
    (h : Begins (· ∈ heads) text ⟨.labelledQuoted, value, rest⟩) :
    (labelledQuoted? heads text).filter Lexeme.isWhole = some ⟨.labelledQuoted, value, rest⟩ := by
  obtain ⟨slice, hspells, rfl, hend⟩ := h
  cases hspells with
  | labelledQuoted hmem hquoted =>
    refine Option.filter_eq_some_iff.mpr ⟨?_, (isWhole_iff _).mpr hend⟩
    rw [List.append_assoc]
    exact labelledQuoted?_append hfree hmem hquoted rest

theorem filter_quoted?_of_begins {IsHead : List Char → Prop} {text value rest : List Char}
    (h : Begins IsHead text ⟨.quoted, value, rest⟩) :
    (quoted? text).filter Lexeme.isWhole = some ⟨.quoted, value, rest⟩ := by
  obtain ⟨slice, hspells, rfl, hend⟩ := h
  cases hspells with
  | quoted hquoted =>
    refine Option.filter_eq_some_iff.mpr ⟨?_, (isWhole_iff _).mpr hend⟩
    exact quoted?_eq_some_iff.mpr ⟨rfl, slice, hquoted, rfl⟩

/-- The lexeme at the start of a token is the one that the grammar asks for. -/
theorem reads_lexeme {heads : List (List Char)} (hfree : QuoteFree (· ∈ heads)) {c : Char}
    (cs : List Char) (hc : isSeparator c = false) :
    Reads (· ∈ heads) (c :: cs) (lexeme heads (c :: cs)) := by
  refine ⟨begins_lexeme heads cs hc, ?_⟩
  rintro ⟨shape, value, rest⟩ h' hearlier
  -- A token of an earlier shape would have been found by the reader of that shape.
  rcases lexeme_cases heads (c :: cs) with hlabelled | ⟨hnone, hquoted | ⟨hnone', hplain⟩⟩
  · obtain ⟨hread, -⟩ := Option.filter_eq_some_iff.mp hlabelled
    obtain ⟨head, -, phrase, written, -, -, hl⟩ := exists_of_labelledQuoted?_eq_some hread
    rw [hl] at hearlier
    cases hearlier
  · obtain ⟨hread, -⟩ := Option.filter_eq_some_iff.mp hquoted
    rw [(quoted?_eq_some_iff.mp hread).1] at hearlier
    obtain rfl := List.mem_singleton.mp hearlier
    rw [filter_labelledQuoted?_of_begins hfree h'] at hnone
    cases hnone
  · rw [hplain] at hearlier
    rcases List.mem_cons.mp hearlier with rfl | hearlier
    · rw [filter_labelledQuoted?_of_begins hfree h'] at hnone
      cases hnone
    · obtain rfl := List.mem_singleton.mp hearlier
      rw [filter_quoted?_of_begins h'] at hnone'
      cases hnone'

/-- Reading from a place of the text on gives the tokens from there on, and nothing else does. -/
theorem lexes_tokensAt {heads : List (List Char)} (hfree : QuoteFree (· ∈ heads))
    (position : Nat) (text : List Char) :
    Lexes (· ∈ heads) position text (tokensAt heads position text) := by
  induction position, text using tokensAt_induction heads with
  | done position =>
    rw [tokensAt]
    exact .done
  | skip position c cs hc ih =>
    rw [tokensAt_cons_of_isSeparator heads position cs hc]
    exact .skip hc ih
  | token position c cs slice hc hspells hslice hend ih =>
    rw [tokensAt_cons_of_eq_append heads position hc hslice]
    exact .token hc (reads_lexeme hfree cs hc) hslice ih

theorem Lexes.eq_tokensAt {heads : List (List Char)} (hfree : QuoteFree (· ∈ heads))
    {position : Nat} {text : List Char} {ts : List Token}
    (h : Lexes (· ∈ heads) position text ts) : ts = tokensAt heads position text := by
  induction h with
  | done => rw [tokensAt]
  | skip hc hrest ih => rw [tokensAt_cons_of_isSeparator heads _ _ hc, ih]
  | @token position c text slice l ts hc hread hslice hrest ih =>
    obtain rfl := hread.eq hfree (reads_lexeme hfree text hc)
    rw [tokensAt_cons_of_eq_append heads position hc hslice, ih]

theorem mem_heads_eq_isHead {labels : List String} (hlabels : AreLabels labels) :
    (· ∈ heads labels) = IsHead labels :=
  funext fun head => propext (mem_heads_iff hlabels head)

theorem quoteFree_isHead {labels : List String} (hlabels : AreLabels labels) :
    QuoteFree (IsHead labels) := fun _ hhead => not_isQuote_of_isHead hlabels hhead

theorem lexes_isHead_iff {labels : List String} (hlabels : AreLabels labels) {text : String}
    {ts : List Token} : Lexes (IsHead labels) 0 text.toList ts ↔ ts = tokens labels text := by
  have hfree := quoteFree_isHead hlabels
  rw [← mem_heads_eq_isHead hlabels] at hfree ⊢
  constructor
  · intro h
    exact h.eq_tokensAt hfree
  · rintro rfl
    exact lexes_tokensAt hfree 0 text.toList

theorem IsHead.mono {labels labels' : List String} (hsub : ∀ l ∈ labels, l ∈ labels')
    {head : List Char} (h : IsHead labels head) : IsHead labels' head := by
  cases h with
  | negation => exact .negation
  | label hl => exact .label (hsub _ hl)
  | negatedLabel hl => exact .negatedLabel (hsub _ hl)

theorem isHead_congr {labels labels' : List String} (hsame : ∀ l, l ∈ labels' ↔ l ∈ labels) :
    IsHead labels' = IsHead labels :=
  funext fun _ => propext ⟨IsHead.mono fun l => (hsame l).mp, IsHead.mono fun l => (hsame l).mpr⟩

/-- The tokens of a text are what the grammar reads, so that the order and repetition of labels
do not matter. -/
theorem lexes_iff_eq_tokens {labels : List String} (hlabels : AreLabels labels) (text : String) :
    (∀ ts, Lexes (IsHead labels) 0 text.toList ts ↔ ts = tokens labels text) ∧
      ∀ labels' : List String, (∀ l, l ∈ labels' ↔ l ∈ labels) →
        tokens labels' text = tokens labels text := by
  refine ⟨fun ts => lexes_isHead_iff hlabels, fun labels' hsame => ?_⟩
  have hlabels' : AreLabels labels' := fun l hl => hlabels l ((hsame l).mp hl)
  apply (lexes_isHead_iff hlabels).mp
  rw [← isHead_congr hsame]
  exact (lexes_isHead_iff hlabels').mpr rfl

/-- Labels of which one begins with a negation and ends with the other. -/
theorem lexes_iff_of_overlapping_labels :
    ∃ labels text,
      labels = ["x:", "not:x:"] ∧ text = "not:not:x:'a b' x:''c" ∧ AreLabels labels ∧
      (∀ l, l ∈ ["not:x:", "x:", "not:x:"] ↔ l ∈ labels) ∧
      (∀ ts, Lexes (IsHead labels) 0 text.toList ts ↔ ts = tokens labels text) ∧
      tokens ["not:x:", "x:", "not:x:"] text = tokens labels text := by
  have hlabels : AreLabels ["x:", "not:x:"] := by
    simp [AreLabels, isQuote]
  have hsame : ∀ l, l ∈ ["not:x:", "x:", "not:x:"] ↔ l ∈ ["x:", "not:x:"] := by
    intro l
    simp only [List.mem_cons, List.not_mem_nil, or_false]
    grind
  have hlexes := lexes_iff_eq_tokens hlabels "not:not:x:'a b' x:''c"
  exact ⟨_, _, rfl, rfl, hlabels, hsame, hlexes.1, hlexes.2 _ hsame⟩

end JournalSearch.Expression
