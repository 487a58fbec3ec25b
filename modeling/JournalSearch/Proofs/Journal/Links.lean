import JournalSearch.Journal.Store
import Mathlib.Tactic.Common

/-!
Links between postings and transactions. A history of steps says by itself what each transaction
lists and which transaction took a posting last, whatever else the steps do. The invariant of a run
is that the journal agrees with its history in both. Postings may be shared by transactions and
repeated in one, but new records have new names, and a transaction takes only postings that exist.
-/
namespace JournalSearch

namespace Step

def createdWith? (id : RecordId) : Step → Option (List RecordId)
  | newTransaction i _ postings => if i = id then some postings else none
  | newPosting .. | addPosting .. | assign .. => none

def added? (id : RecordId) : Step → Option RecordId
  | addPosting i p => if i = id then some p else none
  | newPosting .. | newTransaction .. | assign .. => none

def taker? (id : RecordId) : Step → Option RecordId
  | newTransaction i _ postings => if id ∈ postings then some i else none
  | addPosting i p => if p = id then some i else none
  | newPosting .. | assign .. => none

def createsPosting (id : RecordId) : Step → Bool
  | newPosting i _ => i = id
  | newTransaction .. | addPosting .. | assign .. => false

/-- To take a posting is to be created with it, or to add it later. -/
theorem taker?_eq_some_iff (s : Step) (id posting : RecordId) :
    s.taker? posting = some id ↔
      (∃ postings, s.createdWith? id = some postings ∧ posting ∈ postings) ∨
        s.added? id = some posting := by
  cases s with
  | newPosting | assign => simp [taker?, createdWith?, added?]
  | newTransaction => simp [taker?, createdWith?, added?, and_comm]
  | addPosting => simp [taker?, createdWith?, added?, and_comm]

end Step

namespace History

def createdWith? (steps : List Step) (id : RecordId) : Option (List RecordId) :=
  steps.findSome? (Step.createdWith? id)

def added (steps : List Step) (id : RecordId) : List RecordId :=
  steps.filterMap (Step.added? id)

/-- What the transaction lists, if there is such a transaction. -/
def listed? (steps : List Step) (id : RecordId) : Option (List RecordId) :=
  (createdWith? steps id).map (· ++ added steps id)

def hasPosting (steps : List Step) (id : RecordId) : Bool := steps.any (Step.createsPosting id)

def lastTaker? (steps : List Step) (id : RecordId) : Option RecordId :=
  (steps.filterMap (Step.taker? id)).getLast?

/-- The link of the posting, if there is such a posting. -/
def link? (steps : List Step) (id : RecordId) : Option (Option RecordId) :=
  if hasPosting steps id then some (lastTaker? steps id) else none

/-- The step uses a new name or the names of records that the history has. -/
def Allows (steps : List Step) : Step → Prop
  | .newPosting id _ => hasPosting steps id = false
  | .newTransaction id _ postings =>
    createdWith? steps id = none ∧ ∀ p ∈ postings, hasPosting steps p = true
  | .addPosting id p => (createdWith? steps id).isSome ∧ hasPosting steps p = true
  | .assign .. => True

inductive WellFormed : List Step → Prop
  | nil : WellFormed []
  | snoc {steps : List Step} {s : Step} (h : WellFormed steps) (hs : Allows steps s) :
      WellFormed (steps ++ [s])

variable {steps : List Step} {s : Step} {id posting : RecordId}

theorem WellFormed.of_prefix (h : WellFormed steps) {taken : List Step} (htaken : taken <+: steps) :
    WellFormed taken := by
  induction h with
  | nil =>
    rw [List.prefix_nil.mp htaken]
    exact .nil
  | snoc h hs ih =>
    rcases List.prefix_concat_iff.mp htaken with rfl | htaken
    · exact .snoc h hs
    · exact ih htaken

theorem createdWith?_snoc :
    createdWith? (steps ++ [s]) id = (createdWith? steps id).or (s.createdWith? id) := by
  simp [createdWith?, List.findSome?_append]

theorem added_snoc : added (steps ++ [s]) id = added steps id ++ (s.added? id).toList := by
  cases h : s.added? id <;> simp [added, h]

theorem hasPosting_snoc :
    hasPosting (steps ++ [s]) id = (hasPosting steps id || s.createsPosting id) := by
  simp [hasPosting]

theorem lastTaker?_snoc :
    lastTaker? (steps ++ [s]) id = (s.taker? id).or (lastTaker? steps id) := by
  cases h : s.taker? id <;> simp [lastTaker?, h]

theorem lastTaker?_eq_none_iff : lastTaker? steps id = none ↔ ∀ s ∈ steps, s.taker? id = none := by
  simp [lastTaker?]

theorem exists_of_lastTaker? {i : RecordId} (h : lastTaker? steps id = some i) :
    ∃ s ∈ steps, s.taker? id = some i :=
  List.mem_filterMap.mp (List.mem_of_getLast? h)

theorem Allows.createdWith?_eq_none (hs : Allows steps s) {postings : List RecordId}
    (hnew : s.createdWith? id = some postings) :
    createdWith? steps id = none ∧ s.added? id = none := by
  cases s with
  | newTransaction i heading ps =>
    obtain ⟨rfl, -⟩ := by simpa [Step.createdWith?] using hnew
    exact ⟨hs.1, rfl⟩
  | _ => cases hnew

theorem Allows.isSome_createdWith? (hs : Allows steps s) (hadded : s.added? id = some posting) :
    (createdWith? steps id).isSome := by
  cases s with
  | addPosting i p =>
    obtain ⟨rfl, -⟩ := by simpa [Step.added?] using hadded
    exact hs.1
  | _ => cases hadded

theorem Allows.hasPosting_eq_false (hs : Allows steps s) (hnew : s.createsPosting id = true) :
    hasPosting steps id = false ∧ s.taker? id = none := by
  cases s with
  | newPosting i p =>
    obtain rfl := of_decide_eq_true hnew
    exact ⟨hs, rfl⟩
  | _ => cases hnew

theorem Allows.hasPosting (hs : Allows steps s) (htaker : s.taker? posting = some id) :
    hasPosting steps posting = true := by
  cases s with
  | newTransaction i heading ps =>
    obtain ⟨hmem, -⟩ := by simpa [Step.taker?] using htaker
    exact hs.2 posting hmem
  | addPosting i p =>
    obtain ⟨rfl, -⟩ := by simpa [Step.taker?] using htaker
    exact hs.2
  | _ => cases htaker

/-- Nothing is added to a transaction before it is created. -/
theorem added_eq_nil (h : WellFormed steps) (hnew : createdWith? steps id = none) :
    added steps id = [] := by
  induction h with
  | nil => rfl
  | @snoc steps s h hs ih =>
    rw [createdWith?_snoc, Option.or_eq_none_iff] at hnew
    rw [added_snoc, ih hnew.1]
    cases hadded : s.added? id with
    | none => rfl
    | some posting =>
      have hsome := hs.isSome_createdWith? hadded
      simp [hnew.1] at hsome

/-- No transaction takes a posting before it is created. -/
theorem lastTaker?_eq_none (h : WellFormed steps) (hnew : hasPosting steps id = false) :
    lastTaker? steps id = none := by
  induction h with
  | nil => rfl
  | @snoc steps s h hs ih =>
    rw [hasPosting_snoc, Bool.or_eq_false_iff] at hnew
    rw [lastTaker?_snoc, ih hnew.1]
    cases htaker : s.taker? id with
    | none => rfl
    | some i =>
      have hold := hs.hasPosting htaker
      simp [hnew.1] at hold

/-- A new transaction lists what it is created with, and others may get one posting more. -/
theorem listed?_snoc (h : WellFormed steps) (hs : Allows steps s) :
    listed? (steps ++ [s]) id =
      (s.createdWith? id).or ((listed? steps id).map (· ++ (s.added? id).toList)) := by
  rw [listed?, listed?, createdWith?_snoc, added_snoc]
  cases hnew : s.createdWith? id with
  | none => simp [Function.comp_def]
  | some postings =>
    obtain ⟨hold, hadded⟩ := hs.createdWith?_eq_none hnew
    simp [hold, hadded, added_eq_nil h hold]

/-- A new posting is not linked, and others are linked anew if a transaction takes them. -/
theorem link?_snoc (h : WellFormed steps) (hs : Allows steps s) :
    link? (steps ++ [s]) id =
      if s.createsPosting id then some none
      else (link? steps id).map fun link => (s.taker? id).or link := by
  rw [link?, link?, hasPosting_snoc, lastTaker?_snoc]
  cases hnew : s.createsPosting id with
  | false => cases History.hasPosting steps id <;> simp
  | true =>
    obtain ⟨hold, htaker⟩ := hs.hasPosting_eq_false hnew
    simp [htaker, lastTaker?_eq_none h hold]

/-- What a transaction lists is what it took. -/
theorem exists_listed?_iff (h : WellFormed steps) :
    (∃ postings, listed? steps id = some postings ∧ posting ∈ postings) ↔
      ∃ s ∈ steps, s.taker? posting = some id := by
  induction h with
  | nil => simp [listed?, createdWith?]
  | @snoc steps s h hs ih =>
    have hsplit : (∃ r ∈ steps ++ [s], r.taker? posting = some id) ↔
        (∃ r ∈ steps, r.taker? posting = some id) ∨ s.taker? posting = some id := by
      simp [or_and_right, exists_or]
    rw [hsplit, ← ih, Step.taker?_eq_some_iff, listed?_snoc h hs]
    cases hnew : s.createdWith? id with
    | some postings =>
      obtain ⟨hold, hadded⟩ := hs.createdWith?_eq_none hnew
      simp [listed?, hold, hadded]
    | none =>
      simp only [Option.none_or, Option.map_eq_some_iff, reduceCtorEq, false_and, exists_false,
        false_or]
      constructor
      · rintro ⟨-, ⟨postings, hlisted, rfl⟩, hmem⟩
        rcases List.mem_append.mp hmem with hmem | hmem
        · exact Or.inl ⟨postings, hlisted, hmem⟩
        · exact Or.inr (Option.mem_toList.mp hmem)
      · rintro (⟨postings, hlisted, hmem⟩ | hadded)
        · exact ⟨_, ⟨postings, hlisted, rfl⟩, List.mem_append_left _ hmem⟩
        · obtain ⟨created, hcreated⟩ := Option.isSome_iff_exists.mp (hs.isSome_createdWith? hadded)
          have hlisted : listed? steps id = some (created ++ added steps id) := by
            simp [listed?, hcreated]
          exact ⟨_, ⟨_, hlisted, rfl⟩, List.mem_append_right _ (by simp [hadded])⟩

end History

namespace Journal

/-- The effect of a step on what a transaction lists. -/
theorem transaction?_step (j : Journal) (s : Step) (id : RecordId) :
    ((j.step s).transaction? id).map StoredTransaction.postings =
      (s.createdWith? id).or
        ((j.transaction? id).map fun t => t.postings ++ (s.added? id).toList) := by
  cases s with
  | newPosting i p =>
    simp [step, putPosting, Step.createdWith?, Step.added?]
  | newTransaction i heading postings =>
    by_cases hid : i = id
    · simp [step, putTransaction, Step.createdWith?, hid]
    · simp [step, putTransaction, link, Step.createdWith?, Step.added?, hid, Ne.symm hid]
  | addPosting i p =>
    by_cases hid : i = id
    · subst hid
      cases ht : j.transaction? i with
      | none => simp [step, ht, Step.createdWith?]
      | some t => simp [step, ht, putTransaction, Step.createdWith?, Step.added?]
    · cases ht : j.transaction? i with
      | none => simp [step, ht, Step.createdWith?, Step.added?, hid]
      | some t =>
        simp [step, ht, putTransaction, link, Step.createdWith?, Step.added?, hid, Ne.symm hid]
  | assign i change =>
    by_cases hid : id = i
    · simp [step, Step.createdWith?, Step.added?, Function.comp_def, hid]
    · simp [step, Step.createdWith?, Step.added?, hid]

/-- The effect of a step on the link of a posting. -/
theorem posting?_step (j : Journal) (s : Step) (id : RecordId)
    (hs : ∀ i p, s = .addPosting i p → (j.transaction? i).isSome) :
    ((j.step s).posting? id).map StoredPosting.transaction =
      if s.createsPosting id then some none
      else (j.posting? id).map fun p => (s.taker? id).or p.transaction := by
  cases s with
  | newPosting i p =>
    by_cases hid : i = id
    · simp [step, putPosting, Step.createsPosting, hid]
    · simp [step, putPosting, Step.createsPosting, Step.taker?, hid, Ne.symm hid]
  | newTransaction i heading postings =>
    by_cases hmem : id ∈ postings
    · simp [step, putTransaction, link, Step.createsPosting, Step.taker?, Function.comp_def, hmem]
    · simp [step, putTransaction, link, Step.createsPosting, Step.taker?, hmem]
  | addPosting i p =>
    obtain ⟨t, ht⟩ := Option.isSome_iff_exists.mp (hs i p rfl)
    by_cases hid : p = id
    · simp [step, ht, putTransaction, link, Step.createsPosting, Step.taker?, Function.comp_def,
        hid]
    · simp [step, ht, putTransaction, link, Step.createsPosting, Step.taker?, hid, Ne.symm hid]
  | assign i change =>
    by_cases hid : id = i
    · simp [step, Step.createsPosting, Step.taker?, Function.comp_def, hid]
    · simp [step, Step.createsPosting, Step.taker?, hid]

/-- The journal agrees with the history on what transactions list and how postings are linked. -/
structure Tracks (steps : List Step) (j : Journal) : Prop where
  listed : ∀ id, (j.transaction? id).map StoredTransaction.postings = History.listed? steps id
  linked : ∀ id, (j.posting? id).map StoredPosting.transaction = History.link? steps id

theorem tracks_empty : Tracks [] empty := ⟨fun _ => rfl, fun _ => rfl⟩

variable {steps : List Step} {j : Journal}

theorem Tracks.step (hj : Tracks steps j) (h : History.WellFormed steps) {s : Step}
    (hs : History.Allows steps s) : Tracks (steps ++ [s]) (j.step s) := by
  constructor
  · intro id
    rw [transaction?_step, History.listed?_snoc h hs, ← hj.listed id, Option.map_map]
    rfl
  · intro id
    have hexists : ∀ i p, s = .addPosting i p → (j.transaction? i).isSome := by
      rintro i p rfl
      rw [← Option.isSome_map, hj.listed, History.listed?, Option.isSome_map]
      exact hs.1
    rw [posting?_step j s id hexists, History.link?_snoc h hs, ← hj.linked id, Option.map_map]
    rfl

theorem run_snoc (j : Journal) (steps : List Step) (s : Step) :
    j.run (steps ++ [s]) = (j.run steps).step s := by
  simp [run]

theorem tracks_run (h : History.WellFormed steps) : Tracks steps (empty.run steps) := by
  induction h with
  | nil => exact tracks_empty
  | snoc h hs ih =>
    rw [run_snoc]
    exact ih.step h hs

/-- A transaction of the journal lists a posting exactly if it took it in the history. -/
theorem Tracks.exists_lists_iff (hj : Tracks steps j) (h : History.WellFormed steps)
    {id posting : RecordId} :
    (∃ t, j.transaction? id = some t ∧ posting ∈ t.postings) ↔
      ∃ s ∈ steps, s.taker? posting = some id := by
  rw [← History.exists_listed?_iff h, ← hj.listed]
  simp

theorem Tracks.transaction_eq (hj : Tracks steps j) {id : RecordId} {p : StoredPosting}
    (hp : j.posting? id = some p) : p.transaction = History.lastTaker? steps id := by
  have hlinked := hj.linked id
  rw [hp, Option.map_some, History.link?] at hlinked
  split_ifs at hlinked
  exact Option.some.inj hlinked

/-- After each step of a history, a transaction lists what it was created with and then what was
added to it, and a posting is linked to the transaction that took it last. So a posting is linked
exactly if a transaction lists it, and the transaction to which it is linked does. -/
theorem links_run (h : History.WellFormed steps) {taken : List Step} (htaken : taken <+: steps) :
    Tracks taken (empty.run taken) ∧
      ∀ id p, (empty.run taken).posting? id = some p →
        (p.transaction = none ↔
          ∀ i t, (empty.run taken).transaction? i = some t → id ∉ t.postings) ∧
        ∀ i, p.transaction = some i →
          ∃ t, (empty.run taken).transaction? i = some t ∧ id ∈ t.postings := by
  have hwell := h.of_prefix htaken
  have hj := tracks_run hwell
  refine ⟨hj, fun id p hp => ?_⟩
  rw [hj.transaction_eq hp]
  refine ⟨?_, fun i hlast => ?_⟩
  · rw [History.lastTaker?_eq_none_iff]
    constructor
    · intro hnone i t ht hmem
      obtain ⟨s, hs, htaker⟩ := (hj.exists_lists_iff hwell).mp ⟨t, ht, hmem⟩
      rw [hnone s hs] at htaker
      cases htaker
    · intro hnone s hs
      cases htaker : s.taker? id with
      | none => rfl
      | some i =>
        obtain ⟨t, ht, hmem⟩ := (hj.exists_lists_iff hwell).mpr ⟨s, hs, htaker⟩
        exact absurd hmem (hnone i t ht)
  · exact (hj.exists_lists_iff hwell).mpr (History.exists_of_lastTaker? hlast)

/-- Two transactions share a posting that one of them lists twice, and later once more. -/
theorem links_run_shared :
    ∃ j : Journal,
      empty.run
          [.newPosting "rent" ⟨"expenses:rent", false, .regular, none⟩,
            .newTransaction "may" ⟨⟨2012, 5, 1, by decide, by decide, by decide⟩, "", none, false⟩
              ["rent", "rent"],
            .newTransaction "june"
              ⟨⟨2012, 6, 1, by decide, by decide, by decide⟩, "", none, false⟩ ["rent"],
            .addPosting "may" "rent"] = j ∧
        (j.transaction? "may").map StoredTransaction.postings = some ["rent", "rent", "rent"] ∧
        (j.transaction? "june").map StoredTransaction.postings = some ["rent"] ∧
        (j.posting? "rent").map StoredPosting.transaction = some (some "may") := by
  let rent : Step := .newPosting "rent" ⟨"expenses:rent", false, .regular, none⟩
  let may : Step :=
    .newTransaction "may" ⟨⟨2012, 5, 1, by decide, by decide, by decide⟩, "", none, false⟩
      ["rent", "rent"]
  let june : Step :=
    .newTransaction "june" ⟨⟨2012, 6, 1, by decide, by decide, by decide⟩, "", none, false⟩
      ["rent"]
  have hrent : History.WellFormed [rent] := .snoc (s := rent) .nil rfl
  have hmay : History.WellFormed [rent, may] := .snoc (s := may) hrent ⟨rfl, by decide⟩
  have hjune : History.WellFormed [rent, may, june] := .snoc (s := june) hmay ⟨rfl, by decide⟩
  have hagain : History.WellFormed [rent, may, june, .addPosting "may" "rent"] :=
    .snoc (s := .addPosting "may" "rent") hjune ⟨rfl, rfl⟩
  obtain ⟨hj, -⟩ := links_run hagain List.prefix_rfl
  exact ⟨_, rfl, hj.listed "may", hj.listed "june", hj.linked "rent"⟩

end Journal

end JournalSearch
