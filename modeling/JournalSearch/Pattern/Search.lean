import JournalSearch.Pattern.Match
import JournalSearch.Pattern.Parse

/-!
Searching texts for patterns, ignoring case. A text that is no well-formed pattern is looked for
as it stands.
-/
namespace JournalSearch.Pattern

mutual

def Node.beginsWithLiteral? : Node → Option Bool
  | .one t => some t.code?.isSome
  | .capture _ body | .group body | .scoped body => beginWithLiteral? body
  | _ => some false

def beginWithLiteral? : List Node → Option Bool
  | [] => none
  | n :: nodes => n.beginsWithLiteral?.or (beginWithLiteral? nodes)

end

mutual

/-- Whether a node begins with a test of plain characters, or is a choice each branch of which
begins with a plain character. -/
def Node.beginsWithPlain : Node → Bool
  | .one t => t.isPlain
  | .capture _ body | .group body | .scoped body => beginWithPlain body
  | .choice branches => branches.all fun
    | .one t :: _ => t.code?.isSome
    | _ => false
  | _ => false

def beginWithPlain : List Node → Bool
  | [] => false
  | n :: _ => n.beginsWithPlain

end

/-- How many positions a match is tried at. A text that is too short for the pattern has none.
A pattern that begins with plain characters is looked for up to the end of the text, and any other
as far as enough characters for it are left. -/
def starts (p : Pattern) (size : Nat) : Nat :=
  if size < p.width.least then 0
  else if beginWithLiteral? p.nodes = some true || beginWithPlain p.nodes then size + 1
  else size + 1 - (p.width.least - 1)

def firstMatch? (p : Pattern) (text : Array Char) : Option State :=
  (List.range (p.starts text.size)).findSome? (matchAt? p.nodes text)

def occurs (p : Pattern) (text : String) : Except Fault Bool :=
  match p.firstMatch? text.toList.toArray with
  | some s => if s.hasCrossedGroup then .error .groupCrossed else .ok true
  | none => .ok false

def search (pattern text : String) : Except Fault Bool :=
  match parse pattern with
  | .ok p => p.occurs text
  | .error .malformed => .ok (occursIn pattern.toList text.toList)
  | .error (.fault f) => .error f

def searchWellFormed (pattern text : String) : Except Refusal Bool := do
  ((← parse pattern).occurs text).mapError .fault

def searchOrEscape (pattern text : String) : Except Refusal Bool :=
  match searchWellFormed pattern text with
  | .error .malformed => searchWellFormed (escape pattern) text
  | result => result

end JournalSearch.Pattern
