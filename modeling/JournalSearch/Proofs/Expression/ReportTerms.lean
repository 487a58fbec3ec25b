import JournalSearch.Expression.TermText
import JournalSearch.Proofs.Expression.Labels
import JournalSearch.Proofs.Expression.Outline
import JournalSearch.Proofs.Query.Collecting
import Mathlib.Data.List.Forall2
import Mathlib.Tactic.Common

/-!
Report parameters, read off the texts of the terms. A test in the query of an expression stands
where a token begins with the label of the test's field, so what the tests of one field say is what
its reader makes of these texts, in order. In the query that is found terms may be joined, dropped
and put in another order; the least depth, the first flag and the latest start are the same, unless
some term matches nothing.
-/
namespace JournalSearch.Expression

open Calendar (Date Span latest)
open Outcome Query
open Text (readInt)

def dateLabelField : DateField → Field
  | .actual => .date
  | .effective => .effectiveDate

/-- What the token says after the label, if it begins with the label of the field. -/
def Token.textOf? (field : Field) (token : Token) : Option String :=
  (field.label.toList.isPrefixOf? token.value.toList).map String.ofList

def fieldTexts (field : Field) (tokens : List Token) : List String :=
  tokens.filterMap (Token.textOf? field)

def Term.says? {α : Type} (f : Test → Option α) : Term → Option α
  | query (.test t) => f t
  | query _ | option _ => none

theorem Token.textOf?_eq_some_iff {field : Field} {token : Token} {value : String} :
    token.textOf? field = some value ↔ token.value = field.label ++ value := by
  simp only [textOf?, Option.map_eq_some_iff, List.isPrefixOf?_eq_some_iff_append_eq]
  constructor
  · rintro ⟨rest, hrest, rfl⟩
    rw [← String.ofList_toList (s := token.value), ← hrest, String.ofList_append,
      String.ofList_toList]
  · intro hvalue
    exact ⟨value.toList, by rw [hvalue, String.toList_append], String.ofList_toList⟩

section
variable {dating : Dating} {value : String} {term : Term}

/-- A period that can be read is a test, and one that cannot matches nothing. -/
theorem readField_dateLabel {field : DateField}
    (h : readField dating (dateLabelField field) value = .ok term) :
    (∃ interval span, dating.readPeriod dating.reference value = .ok (interval, span) ∧
        term = .query (.test (field.test span))) ∨
      term = .query .nothing ∧ ∃ why, dating.readPeriod dating.reference value = .error why := by
  obtain ⟨q, hq, rfl⟩ : ∃ q, readSpan dating field.test value = .ok q ∧ .query q = term := by
    cases field <;> exact bind_pure_eq_ok_iff.mp h
  unfold readSpan at hq
  split at hq
  · next interval span hread =>
    cases hq
    exact .inl ⟨interval, span, hread, rfl⟩
  · cases hq
  · next why _ hread =>
    cases hq
    exact .inr ⟨rfl, why, hread⟩

theorem readField_depth (h : readField dating .depth value = .ok term) :
    ∃ limit, readInt 0 value = .ok limit ∧ .query (.test (.depth limit)) = term :=
  bind_pure_eq_ok_iff.mp h

inductive FieldReads (dating : Dating) (field : Field) (value : String) : Term → Prop
  | option (o : FocusOption) : FieldReads dating field value (.option o)
  | test (t : Test) (ht : fieldOfTest t = field) : FieldReads dating field value (.query (.test t))
  | unreadable (dateField : DateField) (hfield : field = dateLabelField dateField)
      (why : Period.Error) (hwhy : dating.readPeriod dating.reference value = .error why) :
      FieldReads dating field value (.query .nothing)

theorem fieldReads_dateLabel {field : DateField}
    (h : readField dating (dateLabelField field) value = .ok term) :
    FieldReads dating (dateLabelField field) value term := by
  rcases readField_dateLabel h with ⟨_, span, -, rfl⟩ | ⟨rfl, why, hwhy⟩
  · refine .test _ ?_
    cases field <;> rfl
  · exact .unreadable field rfl why hwhy

theorem fieldReads_of_readField {field : Field} (h : readField dating field value = .ok term) :
    FieldReads dating field value term := by
  cases field with
  | date => exact @fieldReads_dateLabel dating value term .actual h
  | effectiveDate => exact @fieldReads_dateLabel dating value term .effective h
  | depth =>
    obtain ⟨limit, -, rfl⟩ := readField_depth h
    exact .test _ rfl
  | focusExactly | focus =>
    cases h
    exact .option _
  | description | account | cleared | real | showEmpty =>
    cases h
    exact .test _ rfl

/-- Only tests of accounts are read from terms without a label. -/
theorem exists_value_of_readTerm {text : String} {t : Test}
    (h : readTerm dating text = .ok (.query (.test t))) (ht : fieldOfTest t ≠ .account) :
    ∃ value, text = (fieldOfTest t).label ++ value := by
  rcases readTerm_cases h with ⟨field, value, rfl, hread⟩ | hterm | hterm | ⟨q, hterm⟩
  · cases fieldReads_of_readField hread with
    | test _ hfield => exact ⟨value, by rw [hfield]⟩
  · cases hterm
  · cases hterm
    exact absurd rfl ht
  · cases hterm

/-- A term that matches nothing has the label of a date, and no period after it. -/
theorem exists_error_of_readTerm {text : String}
    (h : readTerm dating text = .ok (.query .nothing)) :
    ∃ dateField value, text = (dateLabelField dateField).label ++ value ∧
      ∃ why, dating.readPeriod dating.reference value = .error why := by
  rcases readTerm_cases h with ⟨field, value, rfl, hread⟩ | hterm | hterm | ⟨q, hterm⟩
  · cases fieldReads_of_readField hread with
    | unreadable dateField hfield why hwhy => exact ⟨dateField, value, by rw [hfield], why, hwhy⟩
  · cases hterm
  · cases hterm
  · cases hterm

end

section
variable {α : Type} {f : Test → Option α}

/-- Tests are collected from terms one by one. -/
theorem collectAll_queries {terms : List Term}
    (hterms : ∀ q ∈ terms.filterMap Term.query?, q.IsSingle) :
    collectAll f (terms.filterMap Term.query?) = terms.filterMap (Term.says? f) := by
  induction terms with
  | nil => rfl
  | cons term terms ih =>
    cases term with
    | option o => exact ih hterms
    | query q =>
      obtain ⟨hq, hrest⟩ := List.forall_mem_cons.mp hterms
      cases q with
      | test t =>
        change collect f (.test t) ++ collectAll f (terms.filterMap Term.query?) = _
        rw [ih hrest, List.filterMap_cons, Term.says?, collect]
        cases f t <;> rfl
      | anyOf | allOf => exact hq.elim
      | _ => exact ih hrest

theorem Term.exists_of_says? {term : Term} {a : α} (h : term.says? f = some a) :
    ∃ t, term = .query (.test t) ∧ f t = some a := by
  match term, h with
  | .query (.test t), h => exact ⟨t, rfl, h⟩

variable {dating : Dating} {labels : List String} {text : String} {terms : List Term}
  {field : Field} {R : String → α → Prop}

/-- What the tests of one field say is read, in order, from the texts after its label. -/
theorem forall₂_fieldTexts (h : readTerms dating labels text = .ok terms)
    (hfield : ∀ t a, f t = some a → fieldOfTest t = field) (haccount : field ≠ .account)
    (hread : ∀ value ∈ fieldTexts field (tokens labels text), ∀ term,
      readField dating field value = .ok term → ∃ a, term.says? f = some a ∧ R value a) :
    List.Forall₂ R (fieldTexts field (tokens labels text))
      (collectAll f (terms.filterMap Term.query?)) := by
  have hall := (List.forall₂_and_left (tokens labels text) terms).mpr
    ⟨fun _ htoken => htoken, readTerms_eq_ok_iff.mp h⟩
  rw [collectAll_queries (isSingle_of_readTerms h)]
  refine List.rel_filterMap (fun token term htoken => ?_) hall
  obtain ⟨htoken, hterm⟩ := htoken
  cases hvalue : token.textOf? field with
  | some value =>
    rw [Token.textOf?_eq_some_iff.mp hvalue, readTerm_label_eq_ok_iff] at hterm
    obtain ⟨a, ha, hR⟩ := hread value (List.mem_filterMap.mpr ⟨token, htoken, hvalue⟩) term hterm
    rw [ha]
    exact .some hR
  | none =>
    cases hsays : term.says? f with
    | none => exact .none
    | some a =>
      obtain ⟨t, rfl, ht⟩ := Term.exists_of_says? hsays
      obtain rfl := hfield t a ht
      obtain ⟨value, htext⟩ := exists_value_of_readTerm hterm haccount
      rw [Token.textOf?_eq_some_iff.mpr htext] at hvalue
      cases hvalue

end

/-! The parameters of what is found for terms -/

section
variable {qs : List Query}

/-- What tests of other fields than dates, accounts and descriptions say is the same, and in the
same order, in the terms that are joined and in all terms. -/
theorem collectAll_outline {α : Type} {f : Test → Option α} (hdate : ∀ span, f (.date span) = none)
    (haccount : ∀ pattern, f (.account pattern) = none)
    (hdescription : ∀ pattern, f (.description pattern) = none) (qs : List Query) :
    collectAll f (boundedDates qs ++ undated qs) = collectAll f qs := by
  have hdates : ∀ q ∈ boundedDates qs, q.collect f = [] :=
    fun q hq => collect_of_isDate hdate (isDate_of_mem_boundedDates hq)
  have haccounts : ∀ q : Query, q.isAccount = true → q.collect f = [] := by
    intro q hq
    obtain ⟨pattern, rfl⟩ := isAccount_iff.mp hq
    rw [collect, haccount, Option.toList_none]
  have hdescriptions : ∀ q : Query, q.isDescription = true → q.collect f = [] := by
    intro q hq
    obtain ⟨pattern, rfl⟩ := isDescription_iff.mp hq
    rw [collect, hdescription, Option.toList_none]
  have hchoice (kind : Query → Bool) (hkind : ∀ q : Query, kind q = true → q.collect f = []) :
      collectAll f (choose? (qs.filter kind)).toList = [] :=
    collectAll_eq_nil fun q hq => collect_of_choose? hkind (Option.mem_toList.mp hq)
  rw [undated, collectAll_append, collectAll_append, collectAll_append, collectAll_eq_nil hdates,
    hchoice _ haccounts, hchoice _ hdescriptions, otherTerms, collectAll_filter]
  · rfl
  · intro q _ hdropped
    simp only [Bool.not_eq_false', Bool.or_eq_true, decide_eq_true_eq] at hdropped
    rcases hdropped with ((hq | hq) | hq) | rfl
    · exact haccounts q hq
    · exact hdescriptions q hq
    · exact collect_of_isDate hdate hq
    · rfl

theorem depthLimit_outline (hnothing : .nothing ∉ qs) :
    (outline qs).depthLimit = (collectAll Test.depth? qs).min?.getD unlimitedDepth := by
  rw [outline, if_neg hnothing, depthLimit,
    ← collectAll_outline (f := Test.depth?) (fun _ => rfl) (fun _ => rfl) (fun _ => rfl) qs]
  congr 1
  apply Option.ext
  intro limit
  rw [List.min?_eq_some_iff, List.min?_eq_some_iff]
  simp only [mem_collect_conjoin (f := Test.depth?) fun _ => rfl]

theorem showsEmpty_outline (hnothing : .nothing ∉ qs) :
    (outline qs).showsEmpty = (collectAll Test.showEmpty? qs).head?.getD false := by
  rw [outline, if_neg hnothing, showsEmpty, head?_collect_conjoin fun _ => rfl,
    collectAll_outline (fun _ => rfl) (fun _ => rfl) fun _ => rfl]

theorem startDate_eq_some_iff_of_isSingle {field : DateField} {q : Query} (hq : q.IsSingle)
    {day : Date} :
    q.startDate field = some day ↔
      ∃ span ∈ q.collect (Test.span? field), span.start = some day := by
  cases q with
  | test t => simp [startDate, collect, Option.bind_eq_some_iff]
  | anyOf | allOf => exact hq.elim
  | _ => simp [startDate, collect]

theorem eq_of_mem_collect_span? {field : DateField} {q : Query} (hq : q.IsSingle) {span : Span}
    (hspan : span ∈ q.collect (Test.span? field)) : q = .test (field.test span) := by
  cases q with
  | test t => rw [Test.span?_eq_some_iff.mp (Option.mem_toList.mp hspan)]
  | anyOf | allOf => exact hq.elim
  | _ => cases hspan

/-- A test that sets a start is among the terms that are joined. -/
theorem mem_outline_of_start {field : DateField} {span : Span} {day : Date}
    (hmem : .test (field.test span) ∈ qs) (hstart : span.start = some day) :
    .test (field.test span) ∈ boundedDates qs ++ undated qs := by
  cases field with
  | actual =>
    have hbounded : span ≠ .unbounded := by
      rintro rfl
      cases hstart
    refine List.mem_append_left _ (List.mem_filter.mpr ⟨hmem, ?_⟩)
    simp [DateField.test, isDate, hbounded]
  | effective =>
    refine List.mem_append_right _ (List.mem_append_right _ (List.mem_filter.mpr ⟨hmem, ?_⟩))
    simp [DateField.test, isDate, isAccount, isDescription]

/-- Of what is joined only terms set a start. -/
theorem mem_of_mem_outline {field : DateField} {q : Query} {day : Date}
    (hq : q ∈ boundedDates qs ++ undated qs) (hday : q.startDate field = some day) : q ∈ qs := by
  have hchoice {kind : Query → Bool} (hkind : ∀ q : Query, kind q = true → q.startDate field = none)
      (hchosen : choose? (qs.filter kind) = some q) : q ∈ qs := by
    rw [startDate_of_choose? hkind hchosen] at hday
    cases hday
  rcases List.mem_append.mp hq with hdate | hundated
  · exact List.mem_of_mem_filter hdate
  rcases mem_undated_iff.mp hundated with haccount | hdescription | hother
  · refine hchoice (fun r hr => ?_) haccount
    obtain ⟨pattern, rfl⟩ := isAccount_iff.mp hr
    cases field <;> rfl
  · refine hchoice (fun r hr => ?_) hdescription
    obtain ⟨pattern, rfl⟩ := isDescription_iff.mp hr
    cases field <;> rfl
  · exact List.mem_of_mem_filter hother

theorem startDate_outline (hqs : ∀ q ∈ qs, q.IsSingle) (hnothing : .nothing ∉ qs)
    (field : DateField) :
    (outline qs).startDate field =
      latest ((collectAll (Test.span? field) qs).map Span.start) := by
  rw [outline, if_neg hnothing, startDate_conjoin, startDate]
  apply Calendar.latest_congr
  intro day
  rw [mem_startDates, List.mem_map]
  constructor
  · rintro ⟨q, hq, hday⟩
    have hmem := mem_of_mem_outline hq hday
    obtain ⟨span, hspan, hstart⟩ := (startDate_eq_some_iff_of_isSingle (hqs q hmem)).mp hday
    exact ⟨span, mem_collectAll.mpr ⟨q, hmem, hspan⟩, hstart⟩
  · rintro ⟨span, hspan, hstart⟩
    obtain ⟨q, hmem, hsays⟩ := mem_collectAll.mp hspan
    have hday := (startDate_eq_some_iff_of_isSingle (hqs q hmem)).mpr ⟨span, hsays, hstart⟩
    obtain rfl := eq_of_mem_collect_span? (hqs q hmem) hsays
    exact ⟨_, mem_outline_of_start hmem hstart, hday⟩

end

/-! The parameters of an expression -/

section
variable {dating : Dating} {labels : List String} {text : String} {terms : List Term}

/-- Nothing but a period that cannot be read is read as what matches nothing. -/
theorem nothing_not_mem_of_periods (h : readTerms dating labels text = .ok terms)
    (hperiods : ∀ field : DateField,
      ∀ value ∈ fieldTexts (dateLabelField field) (tokens labels text),
        ∃ period, dating.readPeriod dating.reference value = .ok period) :
    .nothing ∉ terms.filterMap Term.query? := by
  intro hmem
  obtain ⟨term, hterm, hquery⟩ := List.mem_filterMap.mp hmem
  obtain ⟨token, htoken, hread⟩ := exists_mem_of_mem_mapM h hterm
  cases term with
  | option o => cases hquery
  | query q =>
    cases hquery
    obtain ⟨field, value, hvalue, why, hwhy⟩ := exists_error_of_readTerm hread
    obtain ⟨period, hperiod⟩ := hperiods field value
      (List.mem_filterMap.mpr ⟨token, htoken, Token.textOf?_eq_some_iff.mpr hvalue⟩)
    rw [hwhy] at hperiod
    cases hperiod

theorem forall₂_depths (h : readTerms dating labels text = .ok terms) :
    List.Forall₂ (fun value limit => readInt 0 value = .ok limit)
      (fieldTexts .depth (tokens labels text))
      (collectAll Test.depth? (terms.filterMap Term.query?)) := by
  refine forall₂_fieldTexts h (fun t limit ht => ?_) (by decide) fun value _ term hterm => ?_
  · cases t with
    | depth limit => rfl
    | _ => cases ht
  · obtain ⟨limit, hlimit, rfl⟩ := readField_depth hterm
    exact ⟨limit, rfl, hlimit⟩

theorem map_readFlag_fieldTexts (h : readTerms dating labels text = .ok terms) :
    (fieldTexts .showEmpty (tokens labels text)).map readFlag =
      collectAll Test.showEmpty? (terms.filterMap Term.query?) := by
  rw [← List.forall₂_eq_eq_eq, List.forall₂_map_left_iff]
  refine forall₂_fieldTexts h (fun t flag ht => ?_) (by decide) fun value _ term hterm => ?_
  · cases t with
    | showEmpty flag => rfl
    | _ => cases ht
  · cases hterm
    exact ⟨readFlag value, rfl, rfl⟩

theorem forall₂_spans (h : readTerms dating labels text = .ok terms) {field : DateField}
    (hperiods : ∀ value ∈ fieldTexts (dateLabelField field) (tokens labels text),
      ∃ period, dating.readPeriod dating.reference value = .ok period) :
    List.Forall₂
      (fun value span => ∃ interval,
        dating.readPeriod dating.reference value = .ok (interval, span))
      (fieldTexts (dateLabelField field) (tokens labels text))
      (collectAll (Test.span? field) (terms.filterMap Term.query?)) := by
  refine forall₂_fieldTexts h (fun t span ht => ?_) (by cases field <;> decide)
    fun value hvalue term hterm => ?_
  · rw [Test.span?_eq_some_iff.mp ht]
    cases field <;> rfl
  · obtain ⟨period, hperiod⟩ := hperiods value hvalue
    rcases readField_dateLabel hterm with ⟨interval, span, hread, rfl⟩ | ⟨-, why, hwhy⟩
    · exact ⟨span, Test.span?_eq_some_iff.mpr rfl, interval, hread⟩
    · rw [hwhy] at hperiod
      cases hperiod

end

/-- If the periods of an expression can be read, its parameters are those of its terms: the least
limit on the depth, the first flag for empty items, and the latest start of the periods for each
kind of date. -/
theorem parameters_parse {dating : Dating} {labels : List String} {text : String} {found : Search}
    (h : parse dating labels text = .ok found)
    (hperiods : ∀ field : DateField,
      ∀ value ∈ fieldTexts (dateLabelField field) (tokens labels text),
        ∃ period, dating.readPeriod dating.reference value = .ok period) :
    (∃ limits : List Int,
        List.Forall₂ (fun value limit => readInt 0 value = .ok limit)
          (fieldTexts .depth (tokens labels text)) limits ∧
        found.query.depthLimit = limits.min?.getD unlimitedDepth) ∧
      found.query.showsEmpty =
        (fieldTexts .showEmpty (tokens labels text)).head?.elim false readFlag ∧
      ∀ field : DateField, ∃ spans : List Span,
        List.Forall₂
          (fun value span => ∃ interval,
            dating.readPeriod dating.reference value = .ok (interval, span))
          (fieldTexts (dateLabelField field) (tokens labels text)) spans ∧
        (∀ first, found.query.startDate field = some first ↔
          (∃ span ∈ spans, span.start = some first) ∧
            ∀ span ∈ spans, ∀ day ∈ span.start, day ≤ first) ∧
        (found.query.startDate field = none ↔ ∀ span ∈ spans, span.start = none) := by
  obtain ⟨terms, hterms, rfl⟩ := exists_outline_of_parse h
  have hnothing := nothing_not_mem_of_periods hterms hperiods
  refine ⟨⟨_, forall₂_depths hterms, depthLimit_outline hnothing⟩, ?_, fun field =>
    ⟨_, forall₂_spans hterms (hperiods field), fun first => ?_, ?_⟩⟩
  · rw [showsEmpty_outline hnothing, ← map_readFlag_fieldTexts hterms, List.head?_map]
    cases (fieldTexts .showEmpty (tokens labels text)).head? <;> rfl
  · rw [startDate_outline (isSingle_of_readTerms hterms) hnothing, Calendar.latest_eq_some_iff,
      List.mem_map]
    refine and_congr_right fun _ => ⟨fun hlast span hspan day hday => ?_, fun hlast day hday => ?_⟩
    · exact hlast day (List.mem_map.mpr ⟨span, hspan, hday⟩)
    · obtain ⟨span, hspan, hstart⟩ := List.mem_map.mp hday
      exact hlast span hspan day hstart
  · rw [startDate_outline (isSingle_of_readTerms hterms) hnothing, Calendar.latest_eq_none_iff,
      List.forall_mem_map]

/-- Two periods, a flag, and two depths beside an excluded one. -/
theorem parameters_parse_periods :
    ∃ (reference : Date) (text : String) (found : Search),
      reference = ⟨2012, 5, 16, by decide, by decide, by decide⟩ ∧
      text = "date:'from 2011' not:depth:1 depth:3 empty:1 depth:2 date:'from 2012'" ∧
      parse (.ofReference reference) Field.labels text = .ok found ∧
      (∀ field : DateField, ∀ value ∈ fieldTexts (dateLabelField field) (tokens Field.labels text),
        ∃ period, Period.parse reference value = .ok period) ∧
      found.query.depthLimit = 2 ∧ found.query.showsEmpty = true ∧
      found.query.startDate .actual = some ⟨2012, 1, 1, by decide, by decide, by decide⟩ ∧
      found.query.startDate .effective = none := by
  obtain ⟨text, htext⟩ : ∃ text : String,
      text = "date:'from 2011' not:depth:1 depth:3 empty:1 depth:2 date:'from 2012'" := ⟨_, rfl⟩
  let reference : Date := ⟨2012, 5, 16, by decide, by decide, by decide⟩
  let dating : Dating := .ofReference reference
  let earlier : Span := ⟨some ⟨2011, 1, 1, by decide, by decide, by decide⟩, none⟩
  let later : Span := ⟨some ⟨2012, 1, 1, by decide, by decide, by decide⟩, none⟩
  have htokens : tokens Field.labels text =
      [⟨.labelledQuoted, Field.date.label ++ "from 2011", 0⟩,
        ⟨.plain, negation ++ (Field.depth.label ++ "1"), 17⟩,
        ⟨.plain, Field.depth.label ++ "3", 29⟩, ⟨.plain, Field.showEmpty.label ++ "1", 37⟩,
        ⟨.plain, Field.depth.label ++ "2", 45⟩,
        ⟨.labelledQuoted, Field.date.label ++ "from 2012", 53⟩] := by
    rw [htext, tokens, heads_labels]
    cbv
  have hdates : fieldTexts .date (tokens Field.labels text) = ["from 2011", "from 2012"] := by
    rw [htokens]
    cbv
  have heffective : fieldTexts .effectiveDate (tokens Field.labels text) = [] := by
    rw [htokens]
    cbv
  have hdepths : fieldTexts .depth (tokens Field.labels text) = ["3", "2"] := by
    rw [htokens]
    cbv
  have hflags : fieldTexts .showEmpty (tokens Field.labels text) = ["1"] := by
    rw [htokens]
    cbv
  have hexcluded : readTerm dating (Field.depth.label ++ "1") = .ok (.query (.test (.depth 1))) :=
    readTerm_label_eq_ok_iff.mpr rfl
  have hterms : List.Forall₂ (fun token term => readTerm dating token.value = .ok term)
      (tokens Field.labels text)
      [.query (.test (.date earlier)), .query (.complement (.test (.depth 1))),
        .query (.test (.depth 3)), .query (.test (.showEmpty true)), .query (.test (.depth 2)),
        .query (.test (.date later))] := by
    rw [htokens]
    refine .cons ?_ (.cons (readTerm_negation hexcluded) (.cons ?_ (.cons ?_ (.cons ?_
      (.cons ?_ .nil)))))
    all_goals exact readTerm_label_eq_ok_iff.mpr rfl
  have hparse := parse_of_readTerms (readTerms_eq_ok_iff.mpr hterms)
  have hearlier : Period.parse reference "from 2011" = .ok (none, earlier) := rfl
  have hlater : Period.parse reference "from 2012" = .ok (none, later) := rfl
  have hperiods : ∀ field : DateField,
      ∀ value ∈ fieldTexts (dateLabelField field) (tokens Field.labels text),
        ∃ period, Period.parse reference value = .ok period := by
    intro field
    cases field with
    | actual =>
      rw [dateLabelField, hdates]
      exact List.forall_mem_cons.mpr ⟨⟨_, hearlier⟩, List.forall_mem_singleton.mpr ⟨_, hlater⟩⟩
    | effective =>
      rw [dateLabelField, heffective]
      exact List.forall_mem_nil _
  obtain ⟨⟨limits, hlimits, hdepth⟩, hempty, hstarts⟩ := parameters_parse hparse hperiods
  refine ⟨reference, text, _, rfl, htext, hparse, hperiods, ?_, ?_, ?_, ?_⟩
  · have hthree : readInt 0 "3" = .ok 3 := rfl
    have htwo : readInt 0 "2" = .ok 2 := rfl
    rw [hdepths] at hlimits
    obtain ⟨first, rest, hfirst, hrest, rfl⟩ := List.forall₂_cons_left_iff.mp hlimits
    obtain ⟨second, rest, hsecond, hnil, rfl⟩ := List.forall₂_cons_left_iff.mp hrest
    cases hthree.symm.trans hfirst
    cases htwo.symm.trans hsecond
    cases hnil
    exact hdepth
  · rw [hempty, hflags]
    rfl
  · obtain ⟨spans, hspans, hstart, -⟩ := hstarts .actual
    rw [dateLabelField, hdates] at hspans
    obtain ⟨first, rest, ⟨_, hfirst⟩, hrest, rfl⟩ := List.forall₂_cons_left_iff.mp hspans
    obtain ⟨second, rest, ⟨_, hsecond⟩, hnil, rfl⟩ := List.forall₂_cons_left_iff.mp hrest
    cases hearlier.symm.trans hfirst
    cases hlater.symm.trans hsecond
    cases hnil
    exact (hstart _).mpr (by decide)
  · obtain ⟨spans, hspans, -, hnone⟩ := hstarts .effective
    rw [dateLabelField, heffective] at hspans
    cases hspans
    exact hnone.mpr (List.forall_mem_nil _)

end JournalSearch.Expression
