import JournalSearch.Pattern.CharTest

/-!
Patterns as trees. How case, line ends and scripts are treated is settled in the leaves, so that a
tree needs no settings beside it.
-/
namespace JournalSearch.Pattern

inductive Anchor where
  | textStart
  | textEnd
  /-- The end of the text, or before a line end that ends it. -/
  | lastLineEnd
  | lineStart
  | lineEnd
  | wordBoundary (ascii : Bool)
  | notWordBoundary (ascii : Bool)
  deriving DecidableEq

/-- How many more repetitions are tried, and whether that is ever taken back. -/
inductive Greed where
  | greedy
  | lazy
  | possessive
  deriving DecidableEq

/-- The least and the greatest number of characters that may be consumed; there may be no greatest
one. -/
structure Width where
  least : Nat
  greatest : Option Nat
  deriving DecidableEq

inductive Node where
  | one (t : CharTest)
  | anchor (a : Anchor)
  /-- What a numbered group has captured. -/
  | backreference (folding : Folding) (group : Nat)
  | capture (group : Nat) (body : List Node)
  /-- A group that only holds its body together. -/
  | group (body : List Node)
  /-- A group with settings of its own. -/
  | scoped (body : List Node)
  /-- Once it has matched, no other way for it to match is tried. -/
  | atomic (body : List Node)
  | choice (branches : List (List Node))
  /-- At least `least` and at most `greatest` times the body. -/
  | repeated (least : Nat) (greatest : Option Nat) (greed : Greed) (body : List Node)
  | lookAhead (wanted : Bool) (body : List Node)
  /-- Looks back by the width of its body, which should be fixed. -/
  | lookBehind (wanted : Bool) (width : Width) (body : List Node)
  /-- The first body if a numbered group has captured anything, else the second. -/
  | conditional (group : Nat) (yes no : List Node)

namespace Width

def zero : Width := ⟨0, some 0⟩

def char : Width := ⟨1, some 1⟩

def add (v w : Width) : Width :=
  ⟨v.least + w.least, do return (← v.greatest) + (← w.greatest)⟩

def either (v w : Width) : Width :=
  ⟨min v.least w.least, do return max (← v.greatest) (← w.greatest)⟩

def times (w : Width) (least : Nat) (greatest : Option Nat) : Width :=
  ⟨least * w.least,
    match greatest, w.greatest with
    | some 0, _ | _, some 0 => some 0
    | some count, some width => some (count * width)
    | _, _ => none⟩

def isFixed (w : Width) : Bool := w.greatest = some w.least

end Width

mutual

/-- The width of a node, if the widths of the groups before it are known. -/
def Node.width (groups : Nat → Width) : Node → Width
  | .one _ => .char
  | .anchor _ | .lookAhead _ _ | .lookBehind _ _ _ => .zero
  | .backreference _ number => groups number
  | .capture _ body | .group body | .scoped body | .atomic body => widthOf groups body
  | .choice branches => widthOfChoice groups branches
  | .repeated least greatest _ body => (widthOf groups body).times least greatest
  | .conditional _ yes no => (widthOf groups yes).either (widthOf groups no)

def widthOf (groups : Nat → Width) : List Node → Width
  | [] => .zero
  | n :: nodes => (n.width groups).add (widthOf groups nodes)

def widthOfChoice (groups : Nat → Width) : List (List Node) → Width
  | [] => .zero
  | [branch] => widthOf groups branch
  | branch :: branches => (widthOf groups branch).either (widthOfChoice groups branches)

end

end JournalSearch.Pattern

namespace JournalSearch

/-- A pattern, and how many characters it may match. -/
structure Pattern where
  nodes : List Pattern.Node
  width : Pattern.Width

end JournalSearch
