import JournalSearch.Proofs.Expression.Writing

/-!
Texts that go on. If what follows a text starts with a separator and has no quotes, no quoted phrase
reaches into it: the tokens of the text stay what they are, and those of what follows come after
them.
-/
namespace JournalSearch.Expression

variable {IsHead : List Char → Prop} {text suffix : List Char}

theorem IsTermEnd.append {rest : List Char} (hrest : IsTermEnd rest) (hsuffix : IsTermEnd suffix) :
    IsTermEnd (rest ++ suffix) := by
  cases rest with
  | nil => exact hsuffix
  | cons c rest =>
    intro d hd
    exact hrest d hd

/-- A token in quotes ends with one. -/
theorem Spells.exists_getLast? {shape : Shape} {value slice : List Char}
    (h : Spells IsHead shape value slice) (hshape : shape ≠ .plain) :
    ∃ closing, slice.getLast? = some closing ∧ isQuote closing = true := by
  cases h with
  | labelledQuoted _ hquoted =>
    obtain ⟨-, opening, closing, -, hclosing, rfl⟩ := hquoted
    exact ⟨closing, by simp [List.getLast?_append, List.getLast?_cons], hclosing⟩
  | quoted hquoted =>
    obtain ⟨-, opening, closing, -, hclosing, rfl⟩ := hquoted
    exact ⟨closing, by simp [List.getLast?_cons], hclosing⟩
  | plain => exact absurd rfl hshape

section
variable (hquotes : ∀ c ∈ suffix, isQuote c = false) (hend : IsTermEnd suffix)
include hquotes hend

omit hend in
/-- A quoted token with which the longer text begins is one with which the text begins. -/
theorem exists_begins_of_begins_append {l : Lexeme} (h : Begins IsHead (text ++ suffix) l)
    (hshape : l.shape ≠ .plain) : ∃ rest, Begins IsHead text ⟨l.shape, l.value, rest⟩ := by
  obtain ⟨slice, hspells, hslice, hwhole⟩ := h
  rcases List.append_eq_append_iff.mp hslice with ⟨more, hmore, hsuffix⟩ | ⟨more, rfl, hrest⟩
  · cases more with
    | nil => exact ⟨[], slice, hspells, by simpa using hmore.symm, by simp [IsTermEnd]⟩
    | cons c more =>
      -- The closing quote would stand in what follows the text.
      obtain ⟨closing, hlast, hclosing⟩ := hspells.exists_getLast? hshape
      rw [hmore, List.getLast?_append_of_ne_nil _ (by simp)] at hlast
      have hmem : closing ∈ suffix := by
        rw [hsuffix]
        exact List.mem_append_left _ (List.mem_of_getLast? hlast)
      rw [hquotes closing hmem] at hclosing
      cases hclosing
  · refine ⟨more, slice, hspells, rfl, ?_⟩
    intro c hc
    refine hwhole c ?_
    rw [hrest]
    cases more with
    | nil => cases hc
    | cons d more => exact hc

theorem reads_append {l : Lexeme} (h : Reads IsHead text l) :
    Reads IsHead (text ++ suffix) { l with rest := l.rest ++ suffix } := by
  obtain ⟨⟨slice, hspells, hslice, hwhole⟩, hfirst⟩ := h
  refine ⟨⟨slice, hspells, by rw [hslice, List.append_assoc], hwhole.append hend⟩, ?_⟩
  intro l' hbegins hearlier
  have hshape : l'.shape ≠ .plain := by
    intro hplain
    rw [hplain] at hearlier
    cases hl : l.shape <;> simp [hl, Shape.earlier] at hearlier
  obtain ⟨rest, hbegins'⟩ := exists_begins_of_begins_append hquotes hbegins hshape
  exact hfirst _ hbegins' hearlier

/-- The tokens of a text and then those of what follows it. -/
theorem lexes_append {position : Nat} {ts ts' : List Token} (h : Lexes IsHead position text ts)
    (hsuffix : Lexes IsHead (position + text.length) suffix ts') :
    Lexes IsHead position (text ++ suffix) (ts ++ ts') := by
  induction h with
  | done => exact hsuffix
  | @skip position c text ts hc _ ih =>
    refine .skip hc (ih ?_)
    rwa [List.length_cons, Nat.add_comm text.length, ← Nat.add_assoc] at hsuffix
  | @token position c text slice l ts hc hread hslice _ ih =>
    have hlength : position + (c :: text).length = position + slice.length + l.rest.length := by
      rw [hslice, List.length_append, Nat.add_assoc]
    rw [hlength] at hsuffix
    have hread' := reads_append hquotes hend hread
    have hslice' : c :: (text ++ suffix) = slice ++ (l.rest ++ suffix) := by
      rw [← List.cons_append, hslice, List.append_assoc]
    have htoken := Lexes.token hc hread' hslice' (ih hsuffix)
    exact htoken

end

/-- A term without quotes and separators after a text and a blank is the last of its tokens. -/
theorem values_tokens_append (text : String) {term : String} (hne : term ≠ "")
    (hterm : ∀ c ∈ term.toList, isQuote c = false ∧ isSeparator c = false) :
    (tokens Field.labels (text ++ " " ++ term)).map Token.value =
      (tokens Field.labels text).map Token.value ++ [term] := by
  have hspelling : IsSpelling Field.labels term.toList term.toList :=
    ⟨.plain, .plain (by simpa using hne) fun c hc => (hterm c hc).2, fun _ c hc => (hterm c hc).1⟩
  have hwriting : IsWriting Field.labels [term] [⟨[' '], term.toList⟩] [] := by
    refine ⟨.cons hspelling .nil, ?_, by simp, by simp [IsGap]⟩
    simp [IsGap, isSeparator]
  have hlexes : Lexes (IsHead Field.labels) 0 text.toList (tokens Field.labels text) :=
    (lexes_isHead_iff areLabels_labels).mpr rfl
  obtain ⟨ts, hts, hvalues⟩ :=
    exists_lexes_join areLabels_labels areUnbroken_labels hwriting (0 + text.toList.length)
  have hjoin : join [⟨[' '], term.toList⟩] [] = ' ' :: term.toList := by simp [join]
  rw [hjoin] at hts
  have hquotes : ∀ c ∈ ' ' :: term.toList, isQuote c = false :=
    List.forall_mem_cons.mpr ⟨rfl, fun c hc => (hterm c hc).1⟩
  have hend : IsTermEnd (' ' :: term.toList) := by simp [IsTermEnd, isSeparator]
  have happend := lexes_append hquotes hend hlexes hts
  have htext : text.toList ++ ' ' :: term.toList = (text ++ " " ++ term).toList := by simp
  rw [htext] at happend
  rw [← (lexes_isHead_iff areLabels_labels).mp happend, List.map_append, hvalues]

end JournalSearch.Expression
