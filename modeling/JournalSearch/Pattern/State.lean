/-!
What a match keeps track of on its way: where it stands, what the groups have captured, and the
cursor, which is where it last set out or arrived. When the last round of a possessive repetition
fails, the match goes on from the cursor, that is from where the round had got to. So do the first
releases of the engine that have possessive repetitions, and `(?:.+?b)?+a` is not found in `a`;
later releases go on from where the round set out, and find it.
-/
namespace JournalSearch.Pattern

structure State where
  /-- Where the next node has to match. -/
  position : Nat
  /-- Where matching last set out from or came to an end. A failure leaves the cursor there. -/
  cursor : Nat
  /-- Where the first group starts, where it ends, where the second group starts, and so on, up to
  the last mark that has been made. -/
  marks : List (Option Nat)
  deriving DecidableEq

namespace State

def initial (position : Nat) : State := ⟨position, position, []⟩

def settle (s : State) : State := { s with cursor := s.position }

/-- The position is marked. Marks before it that have not been made are empty. -/
def mark (s : State) (i : Nat) : State :=
  let here := some s.position
  { s with
    marks :=
      if i < s.marks.length then s.marks.set i here
      else s.marks ++ List.replicate (i - s.marks.length) none ++ [here] }

def startMark (group : Nat) : Nat := 2 * (group - 1)

def opening (s : State) (group : Nat) : State := s.mark (startMark group)

def closing (s : State) (group : Nat) : State := s.mark (startMark group + 1)

/-- Where the capture of a group starts and ends. A group that has been entered again and not left
yet may start after its end, and has captured nothing then. -/
def captured? (s : State) (group : Nat) : Option (Nat × Nat) := do
  let first ← (← s.marks[startMark group]?)
  let last ← (← s.marks[startMark group + 1]?)
  if first ≤ last then return (first, last) else none

/-- After a failure: back at the position of an earlier state, with no more marks than it had. What
these are is as it was if `whole`, and otherwise as it has become. The cursor does not go back. -/
def back (s earlier : State) (whole : Bool) : State :=
  { s with
    position := earlier.position
    marks := if whole then earlier.marks else s.marks.take earlier.marks.length }

def hasCrossedGroup (s : State) : Bool := go s.marks
where
  go : List (Option Nat) → Bool
    | first :: last :: marks => (first.any fun i => last.any (· < i)) || go marks
    | _ => false

end State

end JournalSearch.Pattern
