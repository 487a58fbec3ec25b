import JournalSearch.Pattern.Basic
import JournalSearch.Text.Basic

/-!
The tokens of a written pattern, in which a backslash and the character after it belong together,
what reading them keeps track of, and why a pattern may be refused. A text that is no well-formed
pattern is told apart from a well-formed one that asks for too much. A text is written as a pattern
for itself with a backslash before each character that patterns give a meaning; blanks get one too,
since a pattern may ask to skip them.
-/
namespace JournalSearch.Pattern

open Text (TooManyDigits)

inductive Token where
  | plain (c : Char)
  | escaped (c : Char)
  /-- A backslash that ends the pattern. It is no part of any pattern. -/
  | dangling
  deriving DecidableEq

namespace Token

def ofChars : List Char → List Token
  | [] => []
  | ['\\'] => [dangling]
  | '\\' :: c :: text => escaped c :: ofChars text
  | c :: text => plain c :: ofChars text

def chars : Token → List Char
  | plain c => [c]
  | escaped c => ['\\', c]
  | dangling => ['\\']

end Token

def specialChars : List Char := "\t\n\x0b\x0c\r #$&()*+-.?[\\]^\x7b|\x7d~".toList

def escapeChar (c : Char) : List Char := if c ∈ specialChars then ['\\', c] else [c]

def escape (text : String) : String := String.ofList (text.toList.flatMap escapeChar)

/-- How the items of a pattern are to be understood. -/
structure Settings where
  /-- Only ASCII characters are letters, digits and blanks, or have a case. -/
  ascii : Bool
  ignoreCase : Bool
  /-- Anchors for lines hold at each line. -/
  multiline : Bool
  /-- The dot stands for line ends too. -/
  dotAll : Bool
  /-- Blanks and comments between items are skipped. -/
  verbose : Bool
  deriving DecidableEq

/-- Case is ignored unless a pattern says otherwise. -/
def Settings.initial : Settings :=
  { ascii := false, ignoreCase := true, multiline := false, dotAll := false, verbose := false }

def Settings.folding (s : Settings) : Folding :=
  if s.ignoreCase then if s.ascii then .ascii else .unicode else .exact

/-- Why a search for a well-formed pattern may give no answer. -/
inductive Fault where
  | repeatTooLarge
  | countTooLong (why : TooManyDigits)
  | asciiAndUnicode
  | lookBehindTooWide
  /-- The pattern matches, and leaves a group that starts after its end. -/
  | groupCrossed
  deriving DecidableEq

def Fault.message : Fault → String
  | repeatTooLarge => "the repetition number is too large"
  | countTooLong why => why.message
  | asciiAndUnicode => "ASCII and UNICODE flags are incompatible"
  | lookBehindTooWide => "invalid SRE code"
  | groupCrossed =>
    "The span of capturing group is wrong, please report a bug for the re module."

inductive Refusal where
  | malformed
  | fault (f : Fault)
  deriving DecidableEq

/-- What has been read of a pattern. -/
structure Progress where
  rest : List Token
  /-- The settings for the whole pattern. -/
  settings : Settings
  unicodeAsked : Bool
  /-- Repetitions are ruled out. -/
  template : Bool
  /-- The widths of the groups so far, and none for a group that is still open. -/
  widths : List (Option Width)
  names : List (List Char × Nat)
  /-- The first group that an enclosing look back may not refer to. -/
  behind : Option Nat
  /-- The numbers of groups that conditions ask for, whether such groups come or not. -/
  conditions : List Nat

def Progress.initial (rest : List Token) : Progress :=
  { rest, settings := .initial, unicodeAsked := false, template := false, widths := [],
    names := [], behind := none, conditions := [] }

abbrev Reader := StateT Progress (Except Refusal)

namespace Reader

def malformed {α : Type} : Reader α := throw .malformed

def fault {α : Type} (f : Fault) : Reader α := throw (.fault f)

def peek : Reader (Option Token) := do return (← get).rest.head?

def advance : Reader Unit := modify fun p => { p with rest := p.rest.tail }

def next : Reader Token := do
  match ← peek with
  | none | some .dangling => malformed
  | some t => do
    advance
    return t

def accept (c : Char) : Reader Bool := do
  if (← peek) = some (.plain c) then
    advance
    return true
  else return false

def expect (c : Char) : Reader Unit := do if !(← accept c) then malformed

def charsWhile (p : Char → Bool) : (limit : Nat) → Reader (List Char)
  | 0 => return []
  | limit + 1 => do
    match ← peek with
    | some (.plain c) =>
      if p c then
        advance
        return c :: (← charsWhile p limit)
      else return []
    | _ => return []

def remaining : Reader Nat := do return (← get).rest.length

/-- What stands before the character, which has to come, and may not come at once. -/
def nameUntil (c : Char) : Reader (List Char) := do
  let name ← go (← remaining)
  if name = [] then malformed else return name
where
  go : Nat → Reader (List Char)
    | 0 => malformed
    | fuel + 1 => do
      let t ← next
      if t = .plain c then return [] else return t.chars ++ (← go fuel)

def skipPast (c : Char) : Nat → Reader Unit
  | 0 => malformed
  | fuel + 1 => do if (← next) ≠ .plain c then skipPast c fuel

def skipLine : Nat → Reader Unit
  | 0 => return ()
  | fuel + 1 => do
    if (← peek).isSome then
      if (← next) ≠ .plain '\n' then skipLine fuel

def groupWidth (number : Nat) : Reader (Option Width) := do
  return (← get).widths[number - 1]?.join

def widthOfNodes (nodes : List Node) : Reader Width := do
  let widths := (← get).widths
  return widthOf (fun number => widths[number - 1]?.join.getD .zero) nodes

def nextGroup : Reader Nat := do return (← get).widths.length + 1

/-- Within a look back only groups can be referred to that were complete before it. -/
def checkBehind (number : Nat) : Reader Unit := do
  match (← get).behind with
  | none => return ()
  | some first => if (← groupWidth number).isNone ∨ first ≤ number then malformed

/-- A reference to a group, which has to be complete. -/
def reference (folding : Folding) (number : Nat) : Reader Node := do
  if (← groupWidth number).isNone then malformed
  checkBehind number
  return .backreference folding number

end Reader

end JournalSearch.Pattern
