import JournalSearch.Pattern.Flags
import JournalSearch.Pattern.Item
import JournalSearch.Unicode.Identifier

/-!
Reading patterns. A pattern is a choice of branches, each a sequence of items, and an item may be
a group that holds a pattern. The tokens that are left bound the depth and the length of all this.
-/
namespace JournalSearch.Pattern

open Reader
open Text (ofDigits ofDigits?)

def repeatLimit : Nat := 4294967295

def groupLimit : Nat := 1073741823

def isPatternBlank (c : Char) : Bool := c = ' ' || ('\t' ≤ c && c ≤ '\r')

/-! Branches -/

def Node.sameLeaf : Node → Node → Bool
  | .one t, .one u => t = u
  | .anchor a, .anchor b => a = b
  | .backreference f m, .backreference g n => f = g && m = n
  | _, _ => false

/-- The leaf with which all branches begin, and the branches without it. -/
def commonHead? : List (List Node) → Option (Node × List (List Node))
  | (n :: first) :: branches => do
    let tails ← branches.mapM fun
      | m :: tail => if n.sameLeaf m then some tail else none
      | [] => none
    return (n, first :: tails)
  | _ => none

def commonHeads : Nat → List (List Node) → List Node × List (List Node)
  | 0, branches => ([], branches)
  | fuel + 1, branches =>
    match commonHead? branches with
    | some (n, tails) =>
      let (heads, branches) := commonHeads fuel tails
      (n :: heads, branches)
    | none => ([], branches)

def branchMembers? : List Node → Option (List Member)
  | [.one (.literal _ code)] => some [.literal code]
  | [.one (.oneOf _ _ ms)] => some ms
  | _ => none

/-- A choice. What all branches begin with is taken out, and a choice of single characters is a
set. -/
def choiceOf (settings : Settings) : List (List Node) → List Node
  | [branch] => branch
  | branches =>
    let (heads, branches) := commonHeads (branches.headD []).length branches
    match branches.mapM branchMembers? with
    | some ms => heads ++ [.one (.oneOf settings.folding settings.ascii ms.flatten)]
    | none => heads ++ [.choice branches]

def openGroups (nodes : List Node) : List Node :=
  nodes.flatMap fun
    | .group body => body
    | n => [n]

/-! Repetitions -/

def countOf (digits : List Char) : Reader (Option Nat) := do
  if digits = [] then return none
  match ofDigits? (digits.map fun c => c.toNat - 0x30) with
  | .error why => fault (.countTooLong why)
  | .ok count => if repeatLimit ≤ count then fault .repeatTooLarge else return some count

/-- The bounds in braces, of which the first has been read. Braces that hold anything else, or
nothing, are no bounds, and the reading is where it was. -/
def bounds? : Reader (Option (Nat × Option Nat)) := do
  let before ← get
  if (← peek) = some (.plain '\x7d') then return none
  let least ← charsWhile Char.isDigit (← remaining)
  let greatest ← if ← accept ',' then charsWhile Char.isDigit (← remaining) else pure least
  if ← accept '\x7d' then
    if (← peek) = some .dangling then malformed
    let low := (← countOf least).getD 0
    let high ← countOf greatest
    if high.any (· < low) then malformed
    return some (low, high)
  else
    set before
    return none

def repeatBounds? (c : Char) : Reader (Option (Nat × Option Nat)) :=
  match c with
  | '?' => return some (0, some 1)
  | '*' => return some (0, none)
  | '+' => return some (1, none)
  | _ => bounds?

def greed : Reader Greed := do
  if ← accept '?' then return .lazy
  if ← accept '+' then return .possessive
  return .greedy

/-- Repeats the last of the items, which are given backwards. There has to be one that is neither
an anchor nor a repetition itself. -/
def repeatLast (least : Nat) (greatest : Option Nat) : List Node → Reader (List Node)
  | [] | .anchor _ :: _ | .repeated _ _ _ _ :: _ => malformed
  | .group body :: done => return .repeated least greatest (← greed) body :: done
  | n :: done => return .repeated least greatest (← greed) [n] :: done

/-! Groups -/

def identifierUntil (c : Char) : Reader (List Char) := do
  let name ← nameUntil c
  if Unicode.isIdentifier name then return name else malformed

def namedGroup (name : List Char) : Reader Nat := do
  match (← get).names.lookup name with
  | some number => return number
  | none => malformed

/-- A number as conditions may write it: blanks around it, a plus in front, digits of any script,
single underscores between them. Separators of files, groups, records and units are no blanks
here. -/
def looseNumber? (text : List Char) : Option Nat := do
  let blank (c : Char) := isPatternBlank c || (Unicode.isSpace c && 0x7f < c.toNat)
  let inner := ((text.dropWhile blank).reverse.dropWhile blank).reverse
  let unsigned := if inner.head? = some '+' then inner.tail else inner
  let parts ← (unsigned.splitOnP (· = '_')).mapM (·.mapM Unicode.digitValue?)
  if parts.all (· ≠ []) then (ofDigits? parts.flatten).toOption else none

def conditionGroup : Reader Nat := do
  let name ← nameUntil ')'
  if Unicode.isIdentifier name then namedGroup name
  else
    match looseNumber? name with
    | none | some 0 => malformed
    | some number =>
      if groupLimit ≤ number then malformed
      modify fun p => { p with conditions := number :: p.conditions }
      return number

def openGroup (name : Option (List Char)) : Reader Nat := do
  let number ← nextGroup
  if let some name := name then
    if ((← get).names.lookup name).isSome then malformed
    modify fun p => { p with names := (name, number) :: p.names }
  modify fun p => { p with widths := p.widths ++ [none] }
  return number

def closeGroup (number : Nat) (body : List Node) : Reader Unit := do
  let width ← widthOfNodes body
  modify fun p => { p with widths := p.widths.set (number - 1) (some width) }

def lookingBack {α : Type} (read : Reader α) : Reader α := do
  let outer := (← get).behind
  if outer.isNone then
    let first ← nextGroup
    modify fun p => { p with behind := some first }
  let result ← read
  modify fun p => { p with behind := outer }
  return result

mutual

/-- The branches of a choice. Settings for the whole pattern apply from the next one on if the
choice is the whole pattern, and only its first branch may start with them. -/
def branches (fuel : Nat) (settings : Settings) (whole first : Bool) :
    Reader (List (List Node)) :=
  match fuel with
  | 0 => malformed
  | fuel + 1 => do
    let branch ← items fuel settings (whole && first) []
    if ← accept '|' then
      let settings ← if whole then (·.settings) <$> get else pure settings
      return branch :: (← branches fuel settings whole false)
    else return [branch]

def choice (fuel : Nat) (settings : Settings) (whole : Bool) : Reader (List Node) :=
  match fuel with
  | 0 => malformed
  | fuel + 1 => do
    let found ← branches fuel settings whole true
    let settings ← if whole then (·.settings) <$> get else pure settings
    return choiceOf settings found

/-- The items of a branch, after those that are given backwards. `start` says that the branch is
the first of the whole pattern. -/
def items (fuel : Nat) (settings : Settings) (start : Bool) (done : List Node) :
    Reader (List Node) :=
  match fuel with
  | 0 => malformed
  | fuel + 1 => do
    match ← peek with
    | none | some (.plain '|') | some (.plain ')') => return openGroups done.reverse
    | _ =>
      match ← next with
      | .dangling => malformed
      | .escaped c => items fuel settings start ((← escapedNode settings c) :: done)
      | .plain c =>
        if settings.verbose && isPatternBlank c then items fuel settings start done
        else if settings.verbose && c == '#' then
          skipLine (← remaining)
          items fuel settings start done
        else if c = '[' then items fuel settings start ((← setNode settings) :: done)
        else if c = '(' then
          let (settings, done) ← group fuel settings start done
          items fuel settings start done
        else if c = '?' ∨ c = '*' ∨ c = '+' ∨ c = '\x7b' then
          match ← repeatBounds? c with
          | some (least, greatest) =>
            items fuel settings start (← repeatLast least greatest done)
          | none => items fuel settings start (literalNode settings c.toNat :: done)
        else items fuel settings start (plainNode settings c :: done)

def group (fuel : Nat) (settings : Settings) (start : Bool) (done : List Node) :
    Reader (Settings × List Node) :=
  match fuel with
  | 0 => malformed
  | fuel + 1 => do
    if ← accept '?' then
      match ← next with
      | .plain 'P' =>
        if ← accept '<' then
          let name ← identifierUntil '>'
          return (settings, (← capturing fuel settings (some name)) :: done)
        else if ← accept '=' then
          let number ← namedGroup (← identifierUntil ')')
          return (settings, (← reference settings.folding number) :: done)
        else malformed
      | .plain ':' => return (settings, .group (← body fuel settings) :: done)
      | .plain '#' => do
        skipPast ')' (← remaining)
        return (settings, done)
      | .plain '=' => return (settings, .lookAhead true (← body fuel settings) :: done)
      | .plain '!' => return (settings, .lookAhead false (← body fuel settings) :: done)
      | .plain '<' =>
        match ← next with
        | .plain '=' => return (settings, (← behind fuel settings true) :: done)
        | .plain '!' => return (settings, (← behind fuel settings false) :: done)
        | _ => malformed
      | .plain '(' => return (settings, (← conditional fuel settings) :: done)
      | .plain '>' => return (settings, .atomic (← body fuel settings) :: done)
      | .plain c =>
        match ← flagGroup c with
        | .forAll on =>
          if !start ∨ !done.isEmpty then malformed
          applyToAll on
          return ((← get).settings, done)
        | .forGroup on off =>
          return (settings, .scoped (← body fuel (groupSettings settings on off)) :: done)
      | _ => malformed
    else return (settings, (← capturing fuel settings none) :: done)

def body (fuel : Nat) (settings : Settings) : Reader (List Node) :=
  match fuel with
  | 0 => malformed
  | fuel + 1 => do
    let nodes ← choice fuel settings false
    expect ')'
    return nodes

def capturing (fuel : Nat) (settings : Settings) (name : Option (List Char)) : Reader Node :=
  match fuel with
  | 0 => malformed
  | fuel + 1 => do
    let number ← openGroup name
    let nodes ← body fuel settings
    closeGroup number nodes
    return .capture number nodes

def behind (fuel : Nat) (settings : Settings) (wanted : Bool) : Reader Node :=
  match fuel with
  | 0 => malformed
  | fuel + 1 => do
    let nodes ← lookingBack (body fuel settings)
    return .lookBehind wanted (← widthOfNodes nodes) nodes

def conditional (fuel : Nat) (settings : Settings) : Reader Node :=
  match fuel with
  | 0 => malformed
  | fuel + 1 => do
    let number ← conditionGroup
    checkBehind number
    let yes ← items fuel settings false []
    let no ← if ← accept '|' then items fuel settings false [] else pure []
    expect ')'
    return .conditional number yes no

end

/-! Whole patterns -/

mutual

def Node.hasWhere (p : Node → Bool) : Node → Bool
  | n@(.one _) | n@(.anchor _) | n@(.backreference _ _) => p n
  | n@(.capture _ body) | n@(.group body) | n@(.scoped body) | n@(.atomic body)
  | n@(.repeated _ _ _ body) | n@(.lookAhead _ body) | n@(.lookBehind _ _ body) =>
    p n || anyHasWhere p body
  | n@(.choice branches) => p n || someBranchHasWhere p branches
  | n@(.conditional _ yes no) => p n || anyHasWhere p yes || anyHasWhere p no

def anyHasWhere (p : Node → Bool) : List Node → Bool
  | [] => false
  | n :: nodes => n.hasWhere p || anyHasWhere p nodes

def someBranchHasWhere (p : Node → Bool) : List (List Node) → Bool
  | [] => false
  | branch :: branches => anyHasWhere p branch || someBranchHasWhere p branches

end

/-- A look back of no fixed width, or a repetition where these are ruled out. -/
def Node.isUnsound (template : Bool) : Node → Bool
  | .lookBehind _ width _ => !width.isFixed || 0xffffffff ≤ width.least
  | .repeated _ _ _ _ => template
  | _ => false

def Node.looksTooFar : Node → Bool
  | .lookBehind _ width _ => 0x80000000 ≤ width.least
  | _ => false

def pattern : Reader Pattern := do
  let fuel := 6 * (← remaining) + 6
  let nodes ← choice fuel .initial true
  let p ← get
  if p.settings.ascii && p.unicodeAsked then fault .asciiAndUnicode
  if p.rest ≠ [] then malformed
  if p.conditions.any (p.widths.length < ·) then malformed
  if anyHasWhere (Node.isUnsound p.template) nodes then malformed
  if anyHasWhere Node.looksTooFar nodes then fault .lookBehindTooWide
  return ⟨nodes, ← widthOfNodes nodes⟩

def parse (text : String) : Except Refusal Pattern :=
  pattern.run' (.initial (Token.ofChars text.toList))

end JournalSearch.Pattern
