import JournalSearch.Expression.Token
import Mathlib.Data.List.Basic
import Mathlib.Data.List.TakeWhile

/-!
How tokens are written. A phrase stands between two quotes and has none itself, a head may stand
right before the first of them, and a plain token is a run without separators. The readers of the
three shapes find exactly the texts that begin so: a head has no quotes, so that it ends where the
first quote of the text stands, and no other head can fit.
-/
namespace JournalSearch.Expression

open List (isPrefixOf?_eq_some_iff_append_eq)

def IsQuoted (phrase written : List Char) : Prop :=
  (∀ c ∈ phrase, isQuote c = false) ∧
    ∃ opening closing, isQuote opening = true ∧ isQuote closing = true ∧
      written = opening :: (phrase ++ [closing])

inductive Spells (IsHead : List Char → Prop) : Shape → List Char → List Char → Prop
  | labelledQuoted {head phrase written : List Char} (hhead : IsHead head)
      (hquoted : IsQuoted phrase written) :
      Spells IsHead .labelledQuoted (head ++ phrase) (head ++ written)
  | quoted {phrase written : List Char} (hquoted : IsQuoted phrase written) :
      Spells IsHead .quoted phrase written
  | plain {run : List Char} (hne : run ≠ []) (hrun : ∀ c ∈ run, isSeparator c = false) :
      Spells IsHead .plain run run

def IsTermEnd (rest : List Char) : Prop := ∀ c ∈ rest.head?, isSeparator c = true

inductive IsHead (labels : List String) : List Char → Prop
  | negation : IsHead labels negation.toList
  | label {label : String} (h : label ∈ labels) : IsHead labels label.toList
  | negatedLabel {label : String} (h : label ∈ labels) :
      IsHead labels (negation.toList ++ label.toList)

/-- Labels that can be told from the phrase after them: they are not empty and have no quotes. -/
def AreLabels (labels : List String) : Prop :=
  ∀ label ∈ labels, label ≠ "" ∧ ∀ c ∈ label.toList, isQuote c = false

theorem isWhole_iff (l : Lexeme) : l.isWhole = true ↔ IsTermEnd l.rest := by
  simp [Lexeme.isWhole, IsTermEnd, Option.all_eq_true]

theorem mem_heads_iff {labels : List String} (hlabels : AreLabels labels) (head : List Char) :
    head ∈ heads labels ↔ IsHead labels head := by
  have hsorted (chars : List Char) :
      chars ∈ (labels.mergeSort fun a b => b.length ≤ a.length).map String.toList ↔
        ∃ label ∈ labels, label.toList = chars := by
    simp
  have hempty : (labels.mergeSort fun a b => b.length ≤ a.length).map String.toList ≠ [[]] := by
    intro hnil
    obtain ⟨label, hmem, hchars⟩ := (hsorted []).mp (by simp [hnil])
    exact (hlabels label hmem).1 (String.toList_eq_nil_iff.mp hchars)
  have hmem : head ∈ heads labels ↔ head = negation.toList ∨
      (∃ label ∈ labels, label.toList = head) ∨
      ∃ label ∈ labels, negation.toList ++ label.toList = head := by
    simp only [heads]
    split_ifs with hfew
    · have hnil := hfew.resolve_right hempty
      have hnone : labels = [] := List.eq_nil_iff_forall_not_mem.mpr fun label hl => by
        have hmem := (hsorted label.toList).mpr ⟨label, hl, rfl⟩
        rw [hnil] at hmem
        cases hmem
      simp [hnone]
    · simp only [List.mem_append, List.mem_map, List.mem_cons, hsorted]
      grind
  rw [hmem]
  constructor
  · rintro (rfl | ⟨label, hl, rfl⟩ | ⟨label, hl, rfl⟩)
    · exact .negation
    · exact .label hl
    · exact .negatedLabel hl
  · intro h
    cases h with
    | negation => exact .inl rfl
    | label hl => exact .inr (.inl ⟨_, hl, rfl⟩)
    | negatedLabel hl => exact .inr (.inr ⟨_, hl, rfl⟩)

theorem not_isQuote_of_isHead {labels : List String} (hlabels : AreLabels labels)
    {head : List Char} (hhead : IsHead labels head) : ∀ c ∈ head, isQuote c = false := by
  have hnegation : ∀ c ∈ negation.toList, isQuote c = false := by
    simp [negation, isQuote]
  cases hhead with
  | negation => exact hnegation
  | label hl => exact (hlabels _ hl).2
  | negatedLabel hl =>
    intro c hc
    rcases List.mem_append.mp hc with hc | hc
    · exact hnegation c hc
    · exact (hlabels _ hl).2 c hc

theorem ne_nil_of_isHead {labels : List String} (hlabels : AreLabels labels)
    {head : List Char} (hhead : IsHead labels head) : head ≠ [] := by
  have hnegation : negation.toList ≠ [] := by decide
  cases hhead with
  | negation => exact hnegation
  | label hl => exact fun hnil => (hlabels _ hl).1 (String.toList_eq_nil_iff.mp hnil)
  | negatedLabel hl => exact List.append_ne_nil_of_left_ne_nil hnegation _

/-- Texts without quotes end where the first quote stands. -/
theorem eq_of_append_quote_eq {start start' rest rest' : List Char} {quote quote' : Char}
    (hstart : ∀ c ∈ start, isQuote c = false) (hstart' : ∀ c ∈ start', isQuote c = false)
    (hquote : isQuote quote = true) (hquote' : isQuote quote' = true)
    (h : start ++ quote :: rest = start' ++ quote' :: rest') : start = start' ∧ rest = rest' := by
  have hrun : (start ++ quote :: rest).takeWhile (!isQuote ·) = start := by
    rw [List.takeWhile_append_of_pos (by simpa using hstart)]
    simp [hquote]
  have hrun' : (start' ++ quote' :: rest').takeWhile (!isQuote ·) = start' := by
    rw [List.takeWhile_append_of_pos (by simpa using hstart')]
    simp [hquote']
  have hsame : start = start' := by rw [← hrun, h, hrun']
  subst hsame
  have hrest := List.append_cancel_left h
  exact ⟨rfl, (List.cons.inj hrest).2⟩

/-- A run without separators is as long as it can be if the term ends after it. -/
theorem takeWhile_append_of_isTermEnd {run rest : List Char}
    (hrun : ∀ c ∈ run, isSeparator c = false) (hend : IsTermEnd rest) :
    (run ++ rest).takeWhile (!isSeparator ·) = run := by
  rw [List.takeWhile_append_of_pos (by simpa using hrun)]
  cases rest with
  | nil => simp
  | cons c cs =>
    have hc := hend c rfl
    simp [hc]

/-- What stands before a quoted phrase, the phrase and what follows it are known from the text. -/
theorem eq_of_append_quoted_eq {head head' phrase phrase' written written' rest rest' : List Char}
    (hhead : ∀ c ∈ head, isQuote c = false) (hhead' : ∀ c ∈ head', isQuote c = false)
    (hquoted : IsQuoted phrase written) (hquoted' : IsQuoted phrase' written')
    (h : head ++ (written ++ rest) = head' ++ (written' ++ rest')) :
    head = head' ∧ phrase = phrase' ∧ rest = rest' := by
  obtain ⟨hphrase, opening, closing, hopening, hclosing, rfl⟩ := hquoted
  obtain ⟨hphrase', opening', closing', hopening', hclosing', rfl⟩ := hquoted'
  simp only [List.cons_append, List.append_assoc, List.nil_append] at h
  obtain ⟨rfl, hafter⟩ := eq_of_append_quote_eq hhead hhead' hopening hopening' h
  obtain ⟨rfl, rfl⟩ := eq_of_append_quote_eq hphrase hphrase' hclosing hclosing' hafter
  exact ⟨rfl, rfl, rfl⟩

theorem exists_of_phrase?_eq_some {text phrase rest : List Char}
    (h : phrase? text = some (phrase, rest)) :
    ∃ written, IsQuoted phrase written ∧ text = written ++ rest := by
  cases text with
  | nil => cases h
  | cons opening text =>
    rw [phrase?] at h
    split at h
    · next hopening =>
      cases found : text.dropWhile (!isQuote ·) with
      | nil => simp [found] at h
      | cons closing after =>
        simp only [found, Option.some.injEq, Prod.mk.injEq] at h
        obtain ⟨rfl, rfl⟩ := h
        have hphrase : ∀ c ∈ text.takeWhile (!isQuote ·), isQuote c = false := by
          intro c hc
          simpa using List.mem_takeWhile_imp hc
        have hclosing : isQuote closing = true := by
          have hstop := List.head?_dropWhile_not (!isQuote ·) text
          simpa [found] using hstop
        refine ⟨_, ⟨hphrase, opening, closing, hopening, hclosing, rfl⟩, ?_⟩
        rw [List.cons_append, List.append_assoc, List.singleton_append, ← found,
          List.takeWhile_append_dropWhile]
    · cases h

theorem phrase?_eq_some_iff {text phrase rest : List Char} :
    phrase? text = some (phrase, rest) ↔
      ∃ written, IsQuoted phrase written ∧ text = written ++ rest := by
  refine ⟨exists_of_phrase?_eq_some, ?_⟩
  rintro ⟨written, ⟨hphrase, opening, closing, hopening, hclosing, rfl⟩, rfl⟩
  have hrun : ∀ c ∈ phrase, (!isQuote c) = true := by simpa using hphrase
  simp [phrase?, hopening, List.dropWhile_append_of_pos hrun, List.takeWhile_append_of_pos hrun,
    hclosing]

theorem quoted?_eq_some_iff {text : List Char} {l : Lexeme} :
    quoted? text = some l ↔ l.shape = .quoted ∧
      ∃ written, IsQuoted l.value written ∧ text = written ++ l.rest := by
  obtain ⟨shape, value, rest⟩ := l
  simp only [quoted?, Option.map_eq_some_iff, Prod.exists, phrase?_eq_some_iff, Lexeme.mk.injEq]
  constructor
  · rintro ⟨phrase, after, hread, rfl, rfl, rfl⟩
    exact ⟨rfl, hread⟩
  · rintro ⟨rfl, hread⟩
    exact ⟨value, rest, hread, rfl, rfl, rfl⟩

/-- The text begins with a token of that shape and value, and the term ends after it. -/
def Begins (IsHead : List Char → Prop) (text : List Char) (l : Lexeme) : Prop :=
  ∃ slice, Spells IsHead l.shape l.value slice ∧ text = slice ++ l.rest ∧ IsTermEnd l.rest

/-- A labelled phrase is found only where one stands. -/
theorem exists_of_labelledQuoted?_eq_some {heads : List (List Char)} {text : List Char}
    {l : Lexeme} (h : labelledQuoted? heads text = some l) :
    ∃ head ∈ heads, ∃ phrase written, IsQuoted phrase written ∧
      text = head ++ (written ++ l.rest) ∧ l = ⟨.labelledQuoted, head ++ phrase, l.rest⟩ := by
  obtain ⟨head, hmem, hread⟩ := List.exists_of_findSome?_eq_some h
  simp only [Option.bind_eq_bind, Option.bind_eq_some_iff, Prod.exists, Option.pure_def,
    Option.some.injEq, isPrefixOf?_eq_some_iff_append_eq, phrase?_eq_some_iff] at hread
  obtain ⟨after, rfl, phrase, rest, ⟨written, hquoted, rfl⟩, rfl⟩ := hread
  exact ⟨head, hmem, phrase, written, hquoted, rfl, rfl⟩

theorem begins_of_labelledQuoted?_eq_some {heads : List (List Char)} {text : List Char}
    {l : Lexeme} (h : labelledQuoted? heads text = some l) (hend : IsTermEnd l.rest) :
    Begins (· ∈ heads) text l := by
  obtain ⟨head, hmem, phrase, written, hquoted, rfl, hl⟩ := exists_of_labelledQuoted?_eq_some h
  refine ⟨head ++ written, ?_, by simp, hend⟩
  rw [hl]
  exact .labelledQuoted hmem hquoted

theorem begins_of_quoted?_eq_some {IsHead : List Char → Prop} {text : List Char} {l : Lexeme}
    (h : quoted? text = some l) (hend : IsTermEnd l.rest) : Begins IsHead text l := by
  obtain ⟨hshape, written, hquoted, rfl⟩ := quoted?_eq_some_iff.mp h
  refine ⟨written, ?_, rfl, hend⟩
  rw [hshape]
  exact .quoted hquoted

/-- A run without separators stands wherever no separator does, and it is as long as it can be. -/
theorem begins_plain (IsHead : List Char → Prop) {c : Char} (cs : List Char)
    (hc : isSeparator c = false) : Begins IsHead (c :: cs) (plain (c :: cs)) := by
  refine ⟨(c :: cs).takeWhile (!isSeparator ·), .plain ?_ ?_, ?_, ?_⟩
  · simp [plain, hc]
  · intro d hd
    simpa using List.mem_takeWhile_imp hd
  · exact List.takeWhile_append_dropWhile.symm
  · intro d hd
    have hstop := List.head?_dropWhile_not (!isSeparator ·) (c :: cs)
    rw [plain, Option.mem_def] at hd
    simpa [hd] using hstop

/-- A lexeme is the first whole one of the three shapes, and a plain one if there is none. -/
theorem lexeme_cases (heads : List (List Char)) (text : List Char) :
    (labelledQuoted? heads text).filter Lexeme.isWhole = some (lexeme heads text) ∨
      (labelledQuoted? heads text).filter Lexeme.isWhole = none ∧
        ((quoted? text).filter Lexeme.isWhole = some (lexeme heads text) ∨
          (quoted? text).filter Lexeme.isWhole = none ∧ lexeme heads text = plain text) := by
  rw [lexeme]
  cases (labelledQuoted? heads text).filter Lexeme.isWhole with
  | some l => exact .inl rfl
  | none =>
    cases (quoted? text).filter Lexeme.isWhole with
    | some l => exact .inr ⟨rfl, .inl rfl⟩
    | none => exact .inr ⟨rfl, .inr ⟨rfl, rfl⟩⟩

/-- Whatever is read at the start of a token is written there. -/
theorem begins_lexeme (heads : List (List Char)) {c : Char} (cs : List Char)
    (hc : isSeparator c = false) : Begins (· ∈ heads) (c :: cs) (lexeme heads (c :: cs)) := by
  rcases lexeme_cases heads (c :: cs) with hlabelled | ⟨-, hquoted | ⟨-, hplain⟩⟩
  · obtain ⟨hread, hwhole⟩ := Option.filter_eq_some_iff.mp hlabelled
    exact begins_of_labelledQuoted?_eq_some hread ((isWhole_iff _).mp hwhole)
  · obtain ⟨hread, hwhole⟩ := Option.filter_eq_some_iff.mp hquoted
    exact begins_of_quoted?_eq_some hread ((isWhole_iff _).mp hwhole)
  · rw [hplain]
    exact begins_plain _ cs hc

def QuoteFree (IsHead : List Char → Prop) : Prop :=
  ∀ head, IsHead head → ∀ c ∈ head, isQuote c = false

/-- The value and what follows it are known from the shape and the text. -/
theorem Spells.eq_of_append_eq {IsHead : List Char → Prop} (hfree : QuoteFree IsHead)
    {shape : Shape} {value value' slice slice' rest rest' : List Char}
    (h : Spells IsHead shape value slice) (h' : Spells IsHead shape value' slice')
    (hend : IsTermEnd rest) (hend' : IsTermEnd rest') (hsame : slice ++ rest = slice' ++ rest') :
    value = value' ∧ rest = rest' := by
  cases h with
  | labelledQuoted hhead hquoted =>
    cases h' with
    | labelledQuoted hhead' hquoted' =>
      rw [List.append_assoc, List.append_assoc] at hsame
      obtain ⟨rfl, rfl, rfl⟩ :=
        eq_of_append_quoted_eq (hfree _ hhead) (hfree _ hhead') hquoted hquoted' hsame
      exact ⟨rfl, rfl⟩
  | quoted hquoted =>
    cases h' with
    | quoted hquoted' =>
      have hnone : ∀ c ∈ ([] : List Char), isQuote c = false := by simp
      exact (eq_of_append_quoted_eq hnone hnone hquoted hquoted' hsame).2
  | plain hne hrun =>
    cases h' with
    | plain hne' hrun' =>
      have hvalue : value = value' := by
        rw [← takeWhile_append_of_isTermEnd hrun hend, hsame,
          takeWhile_append_of_isTermEnd hrun' hend']
      subst hvalue
      exact ⟨rfl, List.append_cancel_left hsame⟩

/-- Of each shape, a text begins with one token at most. -/
theorem Begins.eq_of_shape_eq {IsHead : List Char → Prop} (hfree : QuoteFree IsHead)
    {text : List Char} {l l' : Lexeme} (h : Begins IsHead text l) (h' : Begins IsHead text l')
    (hshape : l.shape = l'.shape) : l = l' := by
  obtain ⟨shape, value, rest⟩ := l
  obtain ⟨shape', value', rest'⟩ := l'
  obtain ⟨slice, hspells, rfl, hend⟩ := h
  obtain ⟨slice', hspells', hsame, hend'⟩ := h'
  cases hshape
  obtain ⟨rfl, rfl⟩ := hspells.eq_of_append_eq hfree hspells' hend hend' hsame
  rfl

/-- The reader tries all heads, so that it finds a labelled phrase where one stands. -/
theorem labelledQuoted?_append {heads : List (List Char)} (hfree : QuoteFree (· ∈ heads))
    {head phrase written : List Char} (hmem : head ∈ heads) (hquoted : IsQuoted phrase written)
    (rest : List Char) :
    labelledQuoted? heads (head ++ (written ++ rest)) =
      some ⟨.labelledQuoted, head ++ phrase, rest⟩ := by
  have hsome : (labelledQuoted? heads (head ++ (written ++ rest))).isSome = true := by
    refine List.findSome?_isSome_iff.mpr ⟨head, hmem, ?_⟩
    simp [isPrefixOf?_eq_some_iff_append_eq.mpr rfl, phrase?_eq_some_iff.mpr ⟨written, hquoted, rfl⟩]
  obtain ⟨found, hfound⟩ := Option.isSome_iff_exists.mp hsome
  obtain ⟨head', hmem', phrase', written', hquoted', hsame, hl⟩ :=
    exists_of_labelledQuoted?_eq_some hfound
  obtain ⟨rfl, rfl, hrest⟩ :=
    eq_of_append_quoted_eq (hfree _ hmem) (hfree _ hmem') hquoted hquoted' hsame
  rw [hfound, hl, hrest]

theorem tokensAt_cons_of_isSeparator (heads : List (List Char)) (position : Nat) {c : Char}
    (cs : List Char) (hc : isSeparator c = true) :
    tokensAt heads position (c :: cs) = tokensAt heads (position + 1) cs := by
  rw [tokensAt]
  simp [hc]

/-- A token takes up the slice in which it is written, and reading goes on after it. -/
theorem tokensAt_cons_of_eq_append (heads : List (List Char)) (position : Nat) {c : Char}
    {cs slice : List Char} (hc : isSeparator c = false)
    (hslice : c :: cs = slice ++ (lexeme heads (c :: cs)).rest) :
    tokensAt heads position (c :: cs) =
      ⟨(lexeme heads (c :: cs)).shape, String.ofList (lexeme heads (c :: cs)).value, position⟩ ::
        tokensAt heads (position + slice.length) (lexeme heads (c :: cs)).rest := by
  have hlength : (c :: cs).length - (lexeme heads (c :: cs)).rest.length = slice.length := by
    have hsum := congrArg List.length hslice
    rw [List.length_append] at hsum
    omega
  rw [tokensAt]
  simp [hc, ← hlength]

/-- Induction on the places at which reading goes on: after a separator and after a token. -/
theorem tokensAt_induction (heads : List (List Char)) {motive : Nat → List Char → Prop}
    (done : ∀ position, motive position [])
    (skip : ∀ position c cs, isSeparator c = true → motive (position + 1) cs →
      motive position (c :: cs))
    (token : ∀ position c cs slice, isSeparator c = false →
      Spells (· ∈ heads) (lexeme heads (c :: cs)).shape (lexeme heads (c :: cs)).value slice →
      c :: cs = slice ++ (lexeme heads (c :: cs)).rest →
      IsTermEnd (lexeme heads (c :: cs)).rest →
      motive (position + slice.length) (lexeme heads (c :: cs)).rest → motive position (c :: cs))
    (position : Nat) (text : List Char) : motive position text := by
  induction hlength : text.length using Nat.strong_induction_on generalizing position text with
  | h n ih =>
    subst hlength
    cases text with
    | nil => exact done position
    | cons c cs =>
      cases hc : isSeparator c with
      | true => exact skip position c cs hc (ih cs.length (Nat.lt_succ_self _) _ cs rfl)
      | false =>
        obtain ⟨slice, hspells, hslice, hend⟩ := begins_lexeme heads cs hc
        have hrest := ih _ (length_rest_lexeme heads cs hc) (position + slice.length) _ rfl
        exact token position c cs slice hc hspells hslice hend hrest

end JournalSearch.Expression
