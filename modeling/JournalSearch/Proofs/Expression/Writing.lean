import JournalSearch.Proofs.Expression.Lexing
import Mathlib.Data.List.Forall2

/-!
Writing terms so that they are read back. A term may be written plainly if it has neither quotes
nor separators, in quotes if it has no quotes, and with quotes around what follows a head. Each
spelling is read in the shape in which it was written, since no head has quotes or separators: a
quoted phrase that another reader could find would have to begin within the spelling. So the
values of the tokens of a text are the terms from which the text was joined.
-/
namespace JournalSearch.Expression

/-- The ways open to writing a term. -/
def IsSpelling (labels : List String) (term written : List Char) : Prop :=
  ∃ shape, Spells (IsHead labels) shape term written ∧
    (shape = .plain → ∀ c ∈ term, isQuote c = false)

def IsGap (gap : List Char) : Prop := ∀ c ∈ gap, isSeparator c = true

/-- The spelling of a term and the gap before it. -/
structure Piece where
  gap : List Char
  written : List Char

def join (pieces : List Piece) (last : List Char) : List Char :=
  pieces.flatMap (fun piece => piece.gap ++ piece.written) ++ last

/-- The terms in the order of their pieces, each spelled in one of the ways open to it. Only the
first gap and the last may be empty. -/
structure IsWriting (labels : List String) (terms : List String) (pieces : List Piece)
    (last : List Char) : Prop where
  spelled : List.Forall₂ (fun (term : String) (piece : Piece) =>
    IsSpelling labels term.toList piece.written) terms pieces
  gaps : ∀ piece ∈ pieces, IsGap piece.gap
  apart : ∀ piece ∈ pieces.tail, piece.gap ≠ []
  last : IsGap last

theorem not_isSeparator_of_isQuote {c : Char} (h : isQuote c = true) : isSeparator c = false := by
  simp only [isQuote, Bool.or_eq_true, decide_eq_true_eq] at h
  rcases h with rfl | rfl <;> decide

theorem IsTermEnd.not_quote_cons {c : Char} {rest : List Char} (hc : isQuote c = true) :
    ¬IsTermEnd (c :: rest) := by
  intro hend
  have hsep := hend c rfl
  rw [not_isSeparator_of_isQuote hc] at hsep
  cases hsep

/-- A quoted phrase does not begin within a plain term. -/
theorem plain_append_ne {term rest head after : List Char} {quote : Char}
    (hterm : ∀ c ∈ term, isQuote c = false) (hend : IsTermEnd rest)
    (hhead : ∀ c ∈ head, isSeparator c = false) (hquote : isQuote quote = true) :
    term ++ rest ≠ head ++ quote :: after := by
  intro hsame
  rcases List.append_eq_append_iff.mp hsame with ⟨more, rfl, hrest⟩ | ⟨more, rfl, hrest⟩
  · cases more with
    | nil =>
      rw [hrest] at hend
      exact IsTermEnd.not_quote_cons hquote hend
    | cons c more =>
      have hsep : isSeparator c = true := hend c (by rw [hrest]; rfl)
      rw [hhead c (by simp)] at hsep
      cases hsep
  · cases more with
    | nil =>
      rw [List.nil_append] at hrest
      rw [← hrest] at hend
      exact IsTermEnd.not_quote_cons hquote hend
    | cons c more =>
      obtain ⟨rfl, -⟩ := List.cons.inj hrest
      have hnone := hterm quote (by simp)
      rw [hquote] at hnone
      cases hnone

def AreUnbroken (labels : List String) : Prop :=
  ∀ label ∈ labels, ∀ c ∈ label.toList, isSeparator c = false

theorem not_isSeparator_of_isHead {labels : List String} (hunbroken : AreUnbroken labels)
    {head : List Char} (hhead : IsHead labels head) : ∀ c ∈ head, isSeparator c = false := by
  have hnegation : ∀ c ∈ negation.toList, isSeparator c = false := by
    simp [negation, isSeparator]
  cases hhead with
  | negation => exact hnegation
  | label hl => exact hunbroken _ hl
  | negatedLabel hl => exact List.forall_mem_append.mpr ⟨hnegation, hunbroken _ hl⟩

theorem lexes_gap {IsHead : List Char → Prop} {gap : List Char} (hgap : IsGap gap) {position : Nat}
    {text : List Char} {ts : List Token} (h : Lexes IsHead (position + gap.length) text ts) :
    Lexes IsHead position (gap ++ text) ts := by
  induction gap generalizing position with
  | nil => exact h
  | cons c gap ih =>
    obtain ⟨hc, hrest⟩ := List.forall_mem_cons.mp hgap
    refine .skip hc (ih hrest ?_)
    rwa [Nat.add_assoc, Nat.add_comm 1]

/-- The term before the other pieces ends where they begin, since a gap comes first. -/
theorem isTermEnd_join {pieces : List Piece} {last : List Char}
    (hgaps : ∀ piece ∈ pieces, IsGap piece.gap) (hapart : ∀ piece ∈ pieces, piece.gap ≠ [])
    (hlast : IsGap last) : IsTermEnd (join pieces last) := by
  intro c hc
  cases pieces with
  | nil => exact hlast c (List.mem_of_mem_head? hc)
  | cons piece pieces =>
    obtain ⟨d, gap, hgap⟩ := List.exists_cons_of_ne_nil (hapart piece (by simp))
    have hd := hgaps piece (by simp) d (by simp [hgap])
    simp only [join, List.flatMap_cons, hgap, List.cons_append, List.head?_cons,
      Option.mem_some_iff] at hc
    rwa [← hc]

section
variable {labels : List String} (hlabels : AreLabels labels) (hunbroken : AreUnbroken labels)
include hlabels hunbroken

/-- A spelling is read in the shape in which it was written. -/
theorem exists_reads_of_isSpelling {term written rest : List Char}
    (h : IsSpelling labels term written) (hend : IsTermEnd rest) :
    ∃ shape, Reads (IsHead labels) (written ++ rest) ⟨shape, term, rest⟩ := by
  obtain ⟨shape, hspells, hplain⟩ := h
  refine ⟨shape, ⟨written, hspells, rfl, hend⟩, ?_⟩
  rintro ⟨shape', value', rest'⟩ ⟨slice, hspells', hsame, -⟩ hearlier
  cases hspells with
  | labelledQuoted => cases hearlier
  | quoted hquoted =>
    obtain rfl := List.mem_singleton.mp hearlier
    cases hspells' with
    | @labelledQuoted head phrase written' hhead hquoted' =>
      -- A head would have to begin with the opening quote.
      obtain ⟨-, opening, closing, hopening, -, rfl⟩ := hquoted
      obtain ⟨c, head, rfl⟩ := List.exists_cons_of_ne_nil (ne_nil_of_isHead hlabels hhead)
      obtain ⟨rfl, -⟩ := List.cons.inj hsame
      have hnone := not_isQuote_of_isHead hlabels hhead opening (by simp)
      rw [hopening] at hnone
      cases hnone
  | plain hne hrun =>
    have hterm := hplain rfl
    cases hspells' with
    | labelledQuoted hhead hquoted' =>
      obtain ⟨-, opening, closing, hopening, -, rfl⟩ := hquoted'
      have hhead' := not_isSeparator_of_isHead hunbroken hhead
      rw [List.append_assoc, List.cons_append] at hsame
      exact plain_append_ne hterm hend hhead' hopening hsame
    | quoted hquoted' =>
      obtain ⟨-, opening, closing, hopening, -, rfl⟩ := hquoted'
      exact plain_append_ne hterm hend (List.forall_mem_nil _) hopening hsame
    | plain => simp [Shape.earlier] at hearlier

theorem exists_cons_of_isSpelling {term written : List Char} (h : IsSpelling labels term written) :
    ∃ c cs, written = c :: cs ∧ isSeparator c = false := by
  obtain ⟨shape, hspells, -⟩ := h
  cases hspells with
  | labelledQuoted hhead hquoted =>
    obtain ⟨c, cs, rfl⟩ := List.exists_cons_of_ne_nil (ne_nil_of_isHead hlabels hhead)
    exact ⟨c, _, rfl, not_isSeparator_of_isHead hunbroken hhead c (by simp)⟩
  | quoted hquoted =>
    obtain ⟨-, opening, closing, hopening, -, rfl⟩ := hquoted
    exact ⟨opening, _, rfl, not_isSeparator_of_isQuote hopening⟩
  | plain hne hrun =>
    obtain ⟨c, cs, rfl⟩ := List.exists_cons_of_ne_nil hne
    exact ⟨c, cs, rfl, hrun c (by simp)⟩

/-- Joined pieces are read as tokens with the terms for values. -/
theorem exists_lexes_join {terms : List String} {pieces : List Piece} {last : List Char}
    (h : IsWriting labels terms pieces last) (position : Nat) :
    ∃ ts, Lexes (IsHead labels) position (join pieces last) ts ∧ ts.map Token.value = terms := by
  obtain ⟨hspelled, hgaps, hapart, hlast⟩ := h
  induction hspelled generalizing position with
  | nil =>
    refine ⟨[], ?_, rfl⟩
    have hdone : Lexes (IsHead labels) position (last ++ []) [] := lexes_gap hlast .done
    rwa [List.append_nil] at hdone
  | @cons term piece terms pieces hspelling hspelled ih =>
    obtain ⟨hgap, hgaps'⟩ := List.forall_mem_cons.mp hgaps
    have hend := isTermEnd_join hgaps' hapart hlast
    obtain ⟨shape, hread⟩ := exists_reads_of_isSpelling hlabels hunbroken hspelling hend
    obtain ⟨c, cs, hwritten, hc⟩ := exists_cons_of_isSpelling hlabels hunbroken hspelling
    have hapart' : ∀ piece ∈ pieces.tail, piece.gap ≠ [] :=
      fun piece hmem => hapart piece (List.mem_of_mem_tail hmem)
    obtain ⟨ts, hts, hvalues⟩ :=
      ih (position + piece.gap.length + piece.written.length) hgaps' hapart'
    refine ⟨⟨shape, term, position + piece.gap.length⟩ :: ts, ?_, by simp [hvalues]⟩
    have hjoin : join (piece :: pieces) last =
        piece.gap ++ (piece.written ++ join pieces last) := by simp [join]
    rw [hjoin]
    apply lexes_gap hgap
    have hslice : c :: (cs ++ join pieces last) = piece.written ++ join pieces last := by
      rw [hwritten, List.cons_append]
    rw [← hslice] at hread ⊢
    have htoken := Lexes.token hc hread hslice hts
    rwa [String.ofList_toList] at htoken

end

theorem areLabels_labels : AreLabels Field.labels := by
  simp [AreLabels, Field.labels, Field.all, Field.label, isQuote]

theorem areUnbroken_labels : AreUnbroken Field.labels := by
  simp [AreUnbroken, Field.labels, Field.all, Field.label, isSeparator]

/-- A text without quotes and separators is a term of its own. -/
theorem values_tokens_plain {text : String} (hne : text ≠ "")
    (htext : ∀ c ∈ text.toList, isQuote c = false ∧ isSeparator c = false) :
    (tokens Field.labels text).map Token.value = [text] := by
  have hspelling : IsSpelling Field.labels text.toList text.toList :=
    ⟨.plain, .plain (by simpa using hne) fun c hc => (htext c hc).2, fun _ c hc => (htext c hc).1⟩
  have hwriting : IsWriting Field.labels [text] [⟨[], text.toList⟩] [] :=
    ⟨.cons hspelling .nil, by simp [IsGap], by simp, by simp [IsGap]⟩
  obtain ⟨ts, hts, hvalues⟩ := exists_lexes_join areLabels_labels areUnbroken_labels hwriting 0
  have hjoin : join [⟨[], text.toList⟩] [] = text.toList := by simp [join]
  rw [hjoin] at hts
  rw [← (lexes_isHead_iff areLabels_labels).mp hts, hvalues]

/-- Terms that are spelled in any of the ways open to them and joined by gaps are the values of
the tokens of the text. -/
theorem values_tokens_join {terms : List String} {pieces : List Piece} {last : List Char}
    (h : IsWriting Field.labels terms pieces last) :
    (tokens Field.labels (String.ofList (join pieces last))).map Token.value = terms := by
  obtain ⟨ts, hts, hvalues⟩ := exists_lexes_join areLabels_labels areUnbroken_labels h 0
  rw [← String.toList_ofList (l := join pieces last)] at hts
  rw [← (lexes_isHead_iff areLabels_labels).mp hts, hvalues]

/-- A plain term, an excluded description in quotes of two kinds and an empty term. -/
theorem values_tokens_join_coffee_shop :
    ∃ values pieces,
      values = ["cash", "not:desc:coffee shop", ""] ∧
      pieces = [⟨[], "cash".toList⟩, ⟨[' ', '\n'], "not:desc:'coffee shop\x22".toList⟩,
        ⟨[' '], "''".toList⟩] ∧
      IsWriting Field.labels values pieces ['\r'] ∧
      (tokens Field.labels (String.ofList (join pieces ['\r']))).map Token.value = values := by
  have hplain : IsSpelling Field.labels "cash".toList "cash".toList :=
    ⟨.plain, .plain (by simp) (by simp [isSeparator]), fun _ => by simp [isQuote]⟩
  have hphrase : IsQuoted "coffee shop".toList "'coffee shop\x22".toList :=
    ⟨by simp [isQuote], '\x27', '\x22', rfl, rfl, rfl⟩
  have hempty : IsQuoted "".toList "''".toList := ⟨by simp, '\x27', '\x27', rfl, rfl, rfl⟩
  have hhead : IsHead Field.labels (negation.toList ++ "desc:".toList) :=
    .negatedLabel (by decide)
  have hlabelled : IsSpelling Field.labels "not:desc:coffee shop".toList
      "not:desc:'coffee shop\x22".toList :=
    ⟨.labelledQuoted, .labelledQuoted hhead hphrase, by simp⟩
  have hquoted : IsSpelling Field.labels "".toList "''".toList := ⟨.quoted, .quoted hempty, by simp⟩
  refine ⟨_, _, rfl, rfl, ?writing, values_tokens_join ?writing⟩
  refine ⟨.cons hplain (.cons hlabelled (.cons hquoted .nil)), ?_, ?_, ?_⟩
  · simp [IsGap, isSeparator]
  · simp
  · simp [IsGap, isSeparator]

end JournalSearch.Expression
