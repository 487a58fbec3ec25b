import JournalSearch.Proofs.Expression.Labels

/-!
The rules for reading a term. Read one negation at a time, a term is what its negations make of the
text after them, the innermost first; a table of labels is searched from its head, and a text that
begins with no label is read once more with the label of accounts in front. The reader counts the
negations first and never reads a text twice. Both come to the same, whatever the order of the
table, as no two labels begin the same text.
-/
namespace JournalSearch.Expression

open List (isPrefixOf?_eq_some_iff_append_eq)
open Outcome
open Text (TooManyDigits)

def Term.excluded : Term → Term
  | query q => query (.complement q)
  | option _ => query .everything

def StartsWith (start text : String) : Prop := ∃ rest, text = start ++ rest

inductive ReadByRules (dating : Dating) (fields : List Field) :
    String → Except TooManyDigits Term → Prop
  | negated {text : String} {outcome : Except TooManyDigits Term}
      (h : ReadByRules dating fields text outcome) :
      ReadByRules dating fields (negation ++ text) (outcome.map Term.excluded)
  /-- The first field of the table whose label fits reads what is after the label. -/
  | labelled {before after : List Field} {field : Field} {value : String}
      (hfields : fields = before ++ field :: after)
      (hbefore : ∀ earlier ∈ before, ¬StartsWith earlier.label (field.label ++ value)) :
      ReadByRules dating fields (field.label ++ value) (readField dating field value)
  | empty : ReadByRules dating fields "" (.ok (.query .everything))
  /-- Without a label a term is about the account. -/
  | unlabelled {text : String} {outcome : Except TooManyDigits Term}
      (hnegation : ¬StartsWith negation text) (hne : text ≠ "")
      (hfields : ∀ field ∈ fields, ¬StartsWith field.label text)
      (h : ReadByRules dating fields (Field.account.label ++ text) outcome) :
      ReadByRules dating fields text outcome

variable {dating : Dating} {fields : List Field} {text : String}
  {outcome : Except TooManyDigits Term}

theorem startsWith_iff {start : String} :
    StartsWith start text ↔ (start.toList.isPrefixOf? text.toList).isSome = true := by
  rw [Option.isSome_iff_exists]
  constructor
  · rintro ⟨rest, rfl⟩
    exact ⟨rest.toList, isPrefixOf?_eq_some_iff_append_eq.mpr (String.toList_append ..).symm⟩
  · rintro ⟨rest, hrest⟩
    refine ⟨String.ofList rest, String.toList_injective ?_⟩
    rw [String.toList_append, String.toList_ofList, isPrefixOf?_eq_some_iff_append_eq.mp hrest]

instance (start text : String) : Decidable (StartsWith start text) :=
  decidable_of_iff _ startsWith_iff.symm

theorem isPrefixOf?_eq_none_of_not_startsWith {start : String} (h : ¬StartsWith start text) :
    start.toList.isPrefixOf? text.toList = none := by
  rwa [startsWith_iff, Option.not_isSome_iff_eq_none] at h

theorem Field.eq_of_startsWith {f g : Field} (hf : StartsWith f.label text)
    (hg : StartsWith g.label text) : f = g := by
  obtain ⟨rest, rfl⟩ := hf
  obtain ⟨rest', h⟩ := hg
  have hchars := congrArg String.toList h
  rw [String.toList_append, String.toList_append] at hchars
  exact Field.eq_of_label_append_eq hchars

theorem field?_eq_none (h : ∀ field : Field, ¬StartsWith field.label text) :
    field? Field.all text.toList = none := by
  rw [field?, List.findSome?_eq_none_iff]
  intro field _
  rw [isPrefixOf?_eq_none_of_not_startsWith (h field), Option.map_none]

/-- One negation more excludes what the text is read as. -/
theorem readTerm_negation_eq (dating : Dating) (text : String) :
    readTerm dating (negation ++ text) = (readTerm dating text).map Term.excluded := by
  cases h : readTerm dating text with
  | error e => exact readTerm_negation_eq_error_iff.mpr h
  | ok term =>
    rw [readTerm_negation h]
    cases term <;> rfl

/-- A text without a label is an account, unless it is empty. -/
theorem readTerm_of_unlabelled (hnegation : ¬StartsWith negation text)
    (h : ∀ field : Field, ¬StartsWith field.label text) :
    readTerm dating text =
      .ok (.query (if text = "" then .everything else .test (.account text))) := by
  rw [readTerm_of_isPrefixOf?_eq_none (isPrefixOf?_eq_none_of_not_startsWith hnegation), readPositive,
    field?_eq_none h]
  by_cases hempty : text = ""
  · subst hempty
    rfl
  · simp [hempty, pure, Except.pure]

theorem readTerm_account (dating : Dating) (text : String) :
    readTerm dating (Field.account.label ++ text) = .ok (.query (.test (.account text))) :=
  readTerm_label Field.account text

theorem ReadByRules.readTerm_eq (h : ReadByRules dating fields text outcome)
    (hfields : ∀ field, field ∈ fields) : readTerm dating text = outcome := by
  induction h with
  | negated _ ih => rw [readTerm_negation_eq, ih]
  | labelled => exact readTerm_label _ _
  | empty => exact readTerm_empty
  | @unlabelled text outcome hnegation hne hnone _ ih =>
    rw [readTerm_of_unlabelled hnegation fun field => hnone field (hfields field), if_neg hne,
      ← ih, readTerm_account]

/-- The field whose label fits is found wherever it stands in the table. -/
theorem readByRules_label (hfields : ∀ field, field ∈ fields) (field : Field) (value : String) :
    ReadByRules dating fields (field.label ++ value) (readField dating field value) := by
  obtain ⟨before, after, hsplit, hnew⟩ := List.eq_append_cons_of_mem (hfields field)
  refine .labelled hsplit fun earlier hearlier hstarts => hnew ?_
  rwa [Field.eq_of_startsWith ⟨value, rfl⟩ hstarts]

theorem readByRules_of_not_startsWith (hfields : ∀ field, field ∈ fields)
    (hnegation : ¬StartsWith negation text) :
    ReadByRules dating fields text (readTerm dating text) := by
  by_cases hlabel : ∃ field : Field, StartsWith field.label text
  · obtain ⟨field, value, rfl⟩ := hlabel
    rw [readTerm_label]
    exact readByRules_label hfields field value
  · have hnone : ∀ field : Field, ¬StartsWith field.label text := not_exists.mp hlabel
    rw [readTerm_of_unlabelled hnegation hnone]
    by_cases hempty : text = ""
    · subst hempty
      exact .empty
    · rw [if_neg hempty]
      exact .unlabelled hnegation hempty (fun field _ => hnone field)
        (readByRules_label hfields .account text)

/-- Reading by the rules comes to an end for every text. -/
theorem readByRules_readTerm (hfields : ∀ field, field ∈ fields) (chars : List Char) :
    ReadByRules dating fields (String.ofList chars) (readTerm dating (String.ofList chars)) := by
  induction chars using stripNegations.induct with
  | case1 chars rest hafter _ _ _ _ ih =>
    obtain rfl := isPrefixOf?_eq_some_iff_append_eq.mp hafter
    rw [String.ofList_append, String.ofList_toList, readTerm_negation_eq]
    exact .negated ih
  | case2 chars hnone =>
    apply readByRules_of_not_startsWith hfields
    rw [startsWith_iff, String.toList_ofList, hnone]
    exact Bool.false_ne_true

theorem readByRules_iff (hfields : ∀ field, field ∈ fields) :
    ReadByRules dating fields text outcome ↔ readTerm dating text = outcome := by
  constructor
  · exact fun h => h.readTerm_eq hfields
  · rintro rfl
    rw [← String.ofList_toList (s := text)]
    exact readByRules_readTerm hfields text.toList

/-- A negation excludes what the text after it is read as, and drops an option. A text without a
negation in front begins with one label at most; with none it is the empty term or an account, and
then the label of accounts in front of it changes nothing. So the rules give each text the outcome
of the reader and no other, from a table in any order. -/
theorem readTerm_follows_rules (dating : Dating) (text : String) :
    readTerm dating (negation ++ text) = (readTerm dating text).map Term.excluded ∧
      (¬StartsWith negation text →
        (∀ f g : Field, StartsWith f.label text → StartsWith g.label text → f = g) ∧
        ((∀ field : Field, ¬StartsWith field.label text) →
          (text = "" → readTerm dating text = .ok (.query .everything)) ∧
          (text ≠ "" →
            readTerm dating text = readTerm dating (Field.account.label ++ text) ∧
              readTerm dating text = .ok (.query (.test (.account text)))))) ∧
      ∀ fields : List Field, (∀ field, field ∈ fields) → ∀ outcome,
        ReadByRules dating fields text outcome ↔ readTerm dating text = outcome := by
  refine ⟨readTerm_negation_eq dating text, fun hnegation => ⟨?_, fun hnone => ?_⟩, ?_⟩
  · exact fun f g => Field.eq_of_startsWith
  · rw [readTerm_account, readTerm_of_unlabelled hnegation hnone]
    refine ⟨fun hempty => ?_, fun hne => ?_⟩
    · rw [if_pos hempty]
    · rw [if_neg hne]
      exact ⟨rfl, rfl⟩
  · exact fun fields hfields outcome => readByRules_iff hfields

/-- A label in front of another label, a label within the name of an account, and an option under a
negation, with the table from its end. -/
theorem readTerm_follows_rules_reversed :
    ∃ (dating : Dating) (labelled plain : String),
      dating = .ofReference ⟨2012, 5, 16, by decide, by decide, by decide⟩ ∧
        labelled = "edate:date:2012" ∧ plain = "food:acct:not:" ∧
        ¬StartsWith negation labelled ∧ StartsWith Field.effectiveDate.label labelled ∧
        (∀ field : Field, StartsWith field.label labelled → field = .effectiveDate) ∧
        ¬StartsWith negation plain ∧ (∀ field : Field, ¬StartsWith field.label plain) ∧
        readTerm dating plain = readTerm dating ("acct:" ++ plain) ∧
        readTerm dating plain = .ok (.query (.test (.account plain))) ∧
        (∀ field, field ∈ Field.all.reverse) ∧
        ReadByRules dating Field.all.reverse "not:inacct:food" (.ok (.query .everything)) := by
  obtain ⟨dating, hdating⟩ : ∃ dating : Dating,
      dating = .ofReference ⟨2012, 5, 16, by decide, by decide, by decide⟩ := ⟨_, rfl⟩
  obtain ⟨labelled, hlabelled⟩ : ∃ text : String, text = "edate:date:2012" := ⟨_, rfl⟩
  obtain ⟨plain, hplain⟩ : ∃ text : String, text = "food:acct:not:" := ⟨_, rfl⟩
  have hpositive : ¬StartsWith negation labelled ∧ ¬StartsWith negation plain := by
    rw [hlabelled, hplain]
    decide
  have hedate : StartsWith Field.effectiveDate.label labelled := by
    rw [hlabelled]
    decide
  have hnone : ∀ field : Field, ¬StartsWith field.label plain := by
    intro field
    rw [hplain]
    cases field <;> decide
  have hne : plain ≠ "" := by
    rw [hplain]
    decide
  have hfields : ∀ field, field ∈ Field.all.reverse :=
    fun field => List.mem_reverse.mpr field.mem_all
  obtain ⟨-, honly, -⟩ := readTerm_follows_rules dating labelled
  obtain ⟨-, hunlabelled, -⟩ := readTerm_follows_rules dating plain
  obtain ⟨-, -, hrules⟩ := readTerm_follows_rules dating "not:inacct:food"
  obtain ⟨haccount, hread⟩ := ((hunlabelled hpositive.2).2 hnone).2 hne
  have hoption : readTerm dating (negation ++ (Field.focus.label ++ "food")) =
      .ok (.query .everything) :=
    readTerm_negation (readTerm_label Field.focus "food")
  refine ⟨dating, labelled, plain, hdating, hlabelled, hplain, hpositive.1, hedate,
    fun field hfield => ?_, hpositive.2, hnone, haccount, hread, hfields,
    (hrules _ hfields _).mpr hoption⟩
  exact (honly hpositive.1).1 _ _ hfield hedate

end JournalSearch.Expression
