import JournalSearch.Pattern.Parse
import Mathlib.Tactic.Common

/-!
Reading escaped texts. A character that patterns give a meaning is escaped and then stands for
itself, and any other character stands for itself as it is. So each character of an escaped text is
read as one literal, whatever stands in front of the text and after it.
-/
namespace JournalSearch.Pattern

open Reader

def quotedToken (c : Char) : Token := if c ∈ specialChars then .escaped c else .plain c

def literals (text : List Char) : List Node := text.map fun c => literalNode .initial c.toNat

theorem literals_cons (c : Char) (text : List Char) :
    literals (c :: text) = literalNode .initial c.toNat :: literals text := rfl

theorem ofChars_of_ne {c : Char} (hc : c ≠ '\\') (text : List Char) :
    Token.ofChars (c :: text) = .plain c :: Token.ofChars text := by
  rw [Token.ofChars]
  · rintro rfl
    exact absurd rfl hc
  · rintro d rest rfl
    exact absurd rfl hc

/-- Each character of an escaped text is one token. -/
theorem ofChars_escaped (text after : List Char) :
    Token.ofChars (text.flatMap escapeChar ++ after) =
      text.map quotedToken ++ Token.ofChars after := by
  induction text with
  | nil => rfl
  | cons c text ih =>
    rw [List.flatMap_cons, List.append_assoc, List.map_cons, List.cons_append, ← ih, escapeChar,
      quotedToken]
    split_ifs with hc
    · rfl
    · have hbackslash : c ≠ '\\' := fun h => hc (h ▸ by decide)
      exact ofChars_of_ne hbackslash _

section
variable {start : Bool} {done : List Node} {p : Progress} {rest : List Token} {c : Char}

theorem isAlphanum_of_special (hc : c ∈ specialChars) : c.isAlphanum = false := by
  have hall : specialChars.all (fun d => !d.isAlphanum) = true := by decide
  have hspecial := List.all_eq_true.mp hall c hc
  rwa [Bool.not_eq_true'] at hspecial

/-- Letters and digits are no special characters, and tables list nothing else. -/
theorem lookup_of_special {α : Type} {table : List (Char × α)}
    (htable : ∀ entry ∈ table, entry.1.isAlphanum = true) (hc : c ∈ specialChars) :
    table.lookup c = none := by
  rw [List.lookup_eq_none_iff]
  intro entry hentry
  rw [bne_iff_ne]
  rintro rfl
  have halphanum := htable entry hentry
  rw [isAlphanum_of_special hc] at halphanum
  cases halphanum

theorem escapedNode_of_special {settings : Settings} (hc : c ∈ specialChars) :
    escapedNode settings c = pure (literalNode settings c.toNat) := by
  have halphanum := isAlphanum_of_special hc
  have hcategory : categories.lookup c = none := lookup_of_special (by simp [categories]) hc
  have hanchor : (anchors settings.ascii).lookup c = none :=
    lookup_of_special (by simp [anchors]) hc
  have hcontrol : controls.lookup c = none := lookup_of_special (by simp [controls]) hc
  have hwidth : hexWidths.lookup c = none := lookup_of_special (by simp [hexWidths]) hc
  have hdigit : c.isDigit = false := (Bool.or_eq_false_iff.mp halphanum).2
  have hzero : c ≠ '0' := by
    rintro rfl
    cases halphanum
  have hname : c ≠ 'N' := by
    rintro rfl
    cases halphanum
  rw [escapedNode, hcategory, hanchor, escapedCode, hcontrol, hwidth]
  simp only [hzero, hdigit, hname, halphanum, Bool.false_eq_true, if_false, pure_bind]

theorem plainNode_of_not_special {settings : Settings} (hc : c ∉ specialChars) :
    plainNode settings c = literalNode settings c.toNat := by
  have hne : ∀ d ∈ specialChars, c ≠ d := fun d hd => (ne_of_mem_of_not_mem hd hc).symm
  rw [plainNode]
  · exact hne '.' (by decide)
  · exact hne '^' (by decide)
  · exact hne '$' (by decide)

theorem items_escaped (fuel : Nat) (hc : c ∈ specialChars) :
    items (fuel + 1) .initial start done { p with rest := .escaped c :: rest } =
      items fuel .initial start (literalNode .initial c.toNat :: done) { p with rest } := by
  have hstep : items (fuel + 1) .initial start done { p with rest := .escaped c :: rest } =
      (do items fuel .initial start ((← escapedNode .initial c) :: done) : Reader (List Node))
        { p with rest } := by
    rw [items]
    rfl
  rw [hstep, escapedNode_of_special hc, pure_bind]

theorem items_plain (fuel : Nat) (hc : c ∉ specialChars) :
    items (fuel + 1) .initial start done { p with rest := .plain c :: rest } =
      items fuel .initial start (literalNode .initial c.toNat :: done) { p with rest } := by
  have hne : ∀ d ∈ specialChars, c ≠ d := fun d hd => (ne_of_mem_of_not_mem hd hc).symm
  have hstop : c ≠ '|' ∧ c ≠ ')' := ⟨hne _ (by decide), hne _ (by decide)⟩
  have hopen : c ≠ '[' ∧ c ≠ '(' := ⟨hne _ (by decide), hne _ (by decide)⟩
  have hrepeat : ¬(c = '?' ∨ c = '*' ∨ c = '+' ∨ c = '\x7b') := by
    rintro (h | h | h | h) <;> exact hne _ (by decide) h
  have hverbose : Settings.initial.verbose = false := rfl
  have hpeek : peek { p with rest := .plain c :: rest } =
      .ok (some (.plain c), { p with rest := .plain c :: rest }) := rfl
  have hnext : next { p with rest := .plain c :: rest } = .ok (.plain c, { p with rest }) := rfl
  rw [items, ← plainNode_of_not_special hc]
  simp [bind, StateT.bind, Except.bind, hpeek, hnext, hstop, hopen, hrepeat, hverbose]

/-- The characters of an escaped text are added to the items one by one. -/
theorem items_quoted (fuel : Nat) (text : List Char) :
    items (fuel + text.length) .initial start done
        { p with rest := text.map quotedToken ++ rest } =
      items fuel .initial start ((literals text).reverse ++ done) { p with rest } := by
  induction text generalizing done with
  | nil => rfl
  | cons c text ih =>
    have hdone : (literals (c :: text)).reverse ++ done =
        (literals text).reverse ++ literalNode .initial c.toNat :: done := by
      rw [literals_cons, List.reverse_cons, List.append_assoc, List.singleton_append]
    rw [hdone, ← ih, List.length_cons, ← Nat.add_assoc, List.map_cons, List.cons_append,
      quotedToken]
    split_ifs with hc
    · exact items_escaped _ hc
    · exact items_plain _ hc

end

/-! Whole patterns -/

theorem anyHasWhere_append (q : Node → Bool) (nodes nodes' : List Node) :
    anyHasWhere q (nodes ++ nodes') = (anyHasWhere q nodes || anyHasWhere q nodes') := by
  induction nodes with
  | nil => rfl
  | cons n nodes ih => rw [List.cons_append, anyHasWhere, anyHasWhere, ih, Bool.or_assoc]

theorem anyHasWhere_literals {q : Node → Bool} (hq : ∀ t, q (.one t) = false) (text : List Char) :
    anyHasWhere q (literals text) = false := by
  induction text with
  | nil => rfl
  | cons c text ih =>
    rw [literals_cons, anyHasWhere, ih, literalNode, Node.hasWhere, hq]
    rfl

theorem least_widthOf_append (groups : Nat → Width) (nodes nodes' : List Node) :
    (widthOf groups (nodes ++ nodes')).least =
      (widthOf groups nodes).least + (widthOf groups nodes').least := by
  induction nodes with
  | nil => exact (Nat.zero_add _).symm
  | cons n nodes ih =>
    rw [List.cons_append, widthOf, widthOf, Width.add, Width.add, ih, Nat.add_assoc]

theorem least_widthOf_literals (groups : Nat → Width) (text : List Char) :
    (widthOf groups (literals text)).least = text.length := by
  induction text with
  | nil => rfl
  | cons c text ih =>
    rw [literals_cons, widthOf, Width.add, ih, List.length_cons, Nat.add_comm]
    rfl

/-- The nodes are no reason to refuse a pattern, and none of them is a group to be opened. -/
structure IsFrame (nodes : List Node) : Prop where
  opened : openGroups nodes = nodes
  sound : anyHasWhere (Node.isUnsound false) nodes = false
  near : anyHasWhere Node.looksTooFar nodes = false

theorem isFrame_literals (text : List Char) : IsFrame (literals text) := by
  refine ⟨?_, anyHasWhere_literals (fun _ => rfl) text, anyHasWhere_literals (fun _ => rfl) text⟩
  rw [openGroups, literals, List.flatMap_map]
  exact List.map_eq_flatMap.symm

theorem IsFrame.append {nodes nodes' : List Node} (h : IsFrame nodes) (h' : IsFrame nodes') :
    IsFrame (nodes ++ nodes') := by
  refine ⟨?_, ?_, ?_⟩
  · have hopen : openGroups (nodes ++ nodes') = openGroups nodes ++ openGroups nodes' :=
      List.flatMap_append
    rw [hopen, h.opened, h'.opened]
  · rw [anyHasWhere_append, h.sound, h'.sound]
    rfl
  · rw [anyHasWhere_append, h.near, h'.near]
    rfl

/-- At the end of a pattern, the text is read as the nodes, and groups of these widths come with
them. -/
def ReadsAs (text : List Char) (nodes : List Node) (widths : List (Option Width)) : Prop :=
  ∀ fuel done, items (fuel + 6 * (Token.ofChars text).length + 2) .initial true done
      (.initial (Token.ofChars text)) =
    .ok (openGroups (done.reverse ++ nodes), { Progress.initial [] with widths })

section
variable {text : List Char} {nodes : List Node} {widths : List (Option Width)}

theorem ReadsAs.caret (h : ReadsAs text nodes widths) :
    ReadsAs ('^' :: text) (.anchor .textStart :: nodes) widths := by
  intro fuel done
  have htokens : Token.ofChars ('^' :: text) = .plain '^' :: Token.ofChars text :=
    ofChars_of_ne (by decide) text
  have hfuel : fuel + 6 * (Token.ofChars text).length + 2 + 6 =
      fuel + 5 + 6 * (Token.ofChars text).length + 2 + 1 := by
    omega
  have hstep := h (fuel + 5) (.anchor .textStart :: done)
  rw [List.reverse_cons, List.append_assoc] at hstep
  rw [htokens, List.length_cons, Nat.mul_succ, ← Nat.add_assoc, Nat.add_right_comm _ 6 2, hfuel]
  exact hstep

/-- In front of what can be read, an escaped text is read as its characters. -/
theorem ReadsAs.quoted (h : ReadsAs text nodes widths) (phrase : List Char) :
    ReadsAs (phrase.flatMap escapeChar ++ text) (literals phrase ++ nodes) widths := by
  intro fuel done
  have hfuel : fuel + 6 * (phrase.map quotedToken ++ Token.ofChars text).length + 2 =
      fuel + 5 * phrase.length + 6 * (Token.ofChars text).length + 2 + phrase.length := by
    rw [List.length_append, List.length_map]
    omega
  have hquoted := @items_quoted true done (.initial []) (Token.ofChars text)
    (fuel + 5 * phrase.length + 6 * (Token.ofChars text).length + 2) phrase
  have hstep := h (fuel + 5 * phrase.length) ((literals phrase).reverse ++ done)
  rw [List.reverse_append, List.reverse_reverse, List.append_assoc] at hstep
  rw [ofChars_escaped, hfuel]
  exact hquoted.trans hstep

end

section
variable {tokens : List Token} {nodes : List Node} {widths : List (Option Width)}

/-- A choice may have one branch. -/
theorem choice_of_items {fuel : Nat}
    (h : items fuel .initial true [] (.initial tokens) =
      .ok (nodes, { Progress.initial [] with widths })) :
    choice (fuel + 2) .initial true (.initial tokens) =
      .ok (nodes, { Progress.initial [] with widths }) := by
  rw [choice, branches]
  simp only [bind, StateT.bind, Except.bind, Bool.and_self, h]
  rfl

/-- No check of the whole pattern fails. -/
theorem pattern_of_choice
    (h : choice (6 * tokens.length + 6) .initial true (.initial tokens) =
      .ok (nodes, { Progress.initial [] with widths })) (hframe : IsFrame nodes) :
    ∃ groups, pattern.run' (.initial tokens) = .ok ⟨nodes, widthOf groups nodes⟩ := by
  have hremaining : remaining (.initial tokens) = .ok (tokens.length, .initial tokens) := rfl
  have hget : ∀ p : Progress, (get : Reader Progress) p = .ok (p, p) := fun _ => rfl
  have hascii : (Progress.initial []).settings.ascii = false := rfl
  have hrest : (Progress.initial []).rest = [] := rfl
  have hconditions : (Progress.initial []).conditions = [] := rfl
  have hsound : anyHasWhere (Node.isUnsound (Progress.initial []).template) nodes = false :=
    hframe.sound
  refine ⟨fun number => widths[number - 1]?.join.getD .zero, ?_⟩
  rw [StateT.run', pattern]
  simp only [bind, StateT.bind, Except.bind, hremaining, h, hget, hascii, hrest, hconditions,
    hsound, hframe.near, Bool.false_and, Bool.false_eq_true, if_false, ne_eq, not_true_eq_false,
    List.any_nil]
  rfl

end

/-- What can be read to the end is a pattern. -/
theorem exists_parse_of_readsAs {text : String} {nodes : List Node} {widths : List (Option Width)}
    (h : ReadsAs text.toList nodes widths) (hframe : IsFrame nodes) :
    ∃ groups, parse text = .ok ⟨nodes, widthOf groups nodes⟩ := by
  have hfuel : 2 + 6 * (Token.ofChars text.toList).length + 2 + 2 =
      6 * (Token.ofChars text.toList).length + 6 := by
    omega
  have hitems := h 2 []
  rw [List.reverse_nil, List.nil_append, hframe.opened] at hitems
  have hchoice := choice_of_items hitems
  rw [hfuel] at hchoice
  exact pattern_of_choice hchoice hframe

end JournalSearch.Pattern
