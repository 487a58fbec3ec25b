import JournalSearch.Pattern.Reader
import JournalSearch.Unicode.Name

/-!
The items of a pattern that stand for one character or one position: escapes and sets.
-/
namespace JournalSearch.Pattern

open Reader

def isOctal (c : Char) : Bool := '0' ≤ c && c ≤ '7'

def isHex (c : Char) : Bool := c.isDigit || ('a' ≤ c && c ≤ 'f') || ('A' ≤ c && c ≤ 'F')

def hexValue (c : Char) : Nat :=
  if c.isDigit then c.toNat - 0x30 else (c.toNat - 0x41) % 0x20 + 10

def codeOf (base : Nat) (digits : List Char) : Nat :=
  digits.foldl (fun code c => base * code + hexValue c) 0

def controls : List (Char × Nat) :=
  [('a', 0x07), ('f', 0x0c), ('n', 0x0a), ('r', 0x0d), ('t', 0x09), ('v', 0x0b)]

def categories : List (Char × Category) :=
  [('d', ⟨.digit, false⟩), ('D', ⟨.digit, true⟩), ('s', ⟨.space, false⟩), ('S', ⟨.space, true⟩),
    ('w', ⟨.word, false⟩), ('W', ⟨.word, true⟩)]

def hexWidths : List (Char × Nat) := [('x', 2), ('u', 4), ('U', 8)]

def anchors (ascii : Bool) : List (Char × Anchor) :=
  [('A', .textStart), ('b', .wordBoundary ascii), ('B', .notWordBoundary ascii), ('Z', .textEnd)]

def hexCode (width : Nat) : Reader Nat := do
  let digits ← charsWhile isHex width
  let code := codeOf 16 digits
  if digits.length < width ∨ 0x10ffff < code then malformed else return code

/-- A code point that up to three octal digits give, the first of which has been read. -/
def octalCode (first : Char) : Reader Nat := do
  let code := codeOf 8 (first :: (← charsWhile isOctal 2))
  if 0xff < code then malformed else return code

def namedCode : Reader Nat := do
  expect '\x7b'
  match Unicode.codeOfName? (← nameUntil '\x7d') with
  | some code => return code
  | none => malformed

def escapedCode (c : Char) : Reader Nat := do
  match controls.lookup c, hexWidths.lookup c with
  | some code, _ => return code
  | none, some width => hexCode width
  | none, none =>
    if c = 'N' then namedCode
    else if c.isAlphanum then malformed
    else return c.toNat

def escapedMember (c : Char) : Reader Member := do
  if c = 'b' then return .literal 0x08
  else if isOctal c then return .literal (← octalCode c)
  else
    match categories.lookup c with
    | some k => return .category k
    | none => return .literal (← escapedCode c)

def literalNode (settings : Settings) (code : Nat) : Node := .one (.literal settings.folding code)

def plainNode (settings : Settings) (c : Char) : Node :=
  match c with
  | '.' => .one (if settings.dotAll then .any else .anyInLine)
  | '^' => .anchor (if settings.multiline then .lineStart else .textStart)
  | '$' => .anchor (if settings.multiline then .lineEnd else .lastLineEnd)
  | _ => literalNode settings c.toNat

/-- Digits after a backslash, the first of which is not zero: three octal digits are a code point,
and otherwise one or two digits are the number of a group. -/
def escapedNumber (settings : Settings) (first : Char) : Reader Node := do
  match ← charsWhile Char.isDigit 1 with
  | [second] =>
    if isOctal first ∧ isOctal second then
      match ← charsWhile isOctal 1 with
      | [third] =>
        let code := codeOf 8 [first, second, third]
        if 0xff < code then malformed else return literalNode settings code
      | _ => reference settings.folding (codeOf 10 [first, second])
    else reference settings.folding (codeOf 10 [first, second])
  | _ => reference settings.folding (codeOf 10 [first])

def escapedNode (settings : Settings) (c : Char) : Reader Node := do
  match categories.lookup c, (anchors settings.ascii).lookup c with
  | some k, _ => return .one (.oneOf settings.folding settings.ascii [.category k])
  | none, some a => return .anchor a
  | none, none =>
    if c = '0' then return literalNode settings (← octalCode c)
    else if c.isDigit then escapedNumber settings c
    else return literalNode settings (← escapedCode c)

def memberOf : Token → Reader Member
  | .plain c => return .literal c.toNat
  | .escaped c => escapedMember c
  | .dangling => malformed

def rangeOf : Member → Member → Reader Member
  | .literal first, .literal last => if last < first then malformed else return .range first last
  | _, _ => malformed

/-- The members of a set up to its closing bracket. A bracket that comes first is a member. -/
def members : Nat → List Member → Reader (List Member)
  | 0, _ => malformed
  | fuel + 1, found => do
    let t ← next
    if t = .plain ']' ∧ found ≠ [] then return found
    else do
      let m ← memberOf t
      if ← accept '-' then
        let u ← next
        if u = .plain ']' then return found ++ [m, .literal 0x2d]
        else members fuel (found ++ [← rangeOf m (← memberOf u)])
      else members fuel (found ++ [m])

/-- A set after its opening bracket. A single literal is no set. -/
def setNode (settings : Settings) : Reader Node := do
  let negated ← accept '^'
  let found ← members (← remaining) []
  return .one <| match negated, found.eraseDups with
    | false, [.literal code] => .literal settings.folding code
    | true, [.literal code] => .notLiteral settings.folding code
    | false, ms => .oneOf settings.folding settings.ascii ms
    | true, ms => .noneOf settings.folding settings.ascii ms

end JournalSearch.Pattern
