import JournalSearch.Pattern.Folding
import JournalSearch.Unicode.CharClass

/-!
Tests of single characters: a literal, any character, or a set of literals, ranges and categories.
-/
namespace JournalSearch.Pattern

open Unicode (lowerCode upperCode)

inductive CategoryKind where
  | digit
  | space
  | word
  deriving DecidableEq

/-- A kind of character, or all characters that are not of the kind. -/
structure Category where
  kind : CategoryKind
  negated : Bool
  deriving DecidableEq

def isAsciiSpace (c : Char) : Bool := c = ' ' || ('\t' ≤ c && c ≤ '\r')

def isAsciiWord (c : Char) : Bool := c.isAlphanum || c = '_'

def isWordChar (ascii : Bool) (c : Char) : Bool :=
  if ascii then isAsciiWord c else Unicode.isWord c

/-- With `ascii`, only ASCII characters are of any kind. -/
def CategoryKind.has (ascii : Bool) (c : Char) : CategoryKind → Bool
  | digit => if ascii then c.isDigit else Unicode.isDigit c
  | space => if ascii then isAsciiSpace c else Unicode.isSpace c
  | word => isWordChar ascii c

def Category.has (ascii : Bool) (c : Char) (k : Category) : Bool := k.kind.has ascii c != k.negated

inductive Member where
  | literal (code : Nat)
  | range (first last : Nat)
  | category (k : Category)
  deriving DecidableEq

def lastBasic : Nat := 0xffff

/-- Within the basic plane a literal or range has all characters that count as equal to one of its
own. Beyond, a literal has only itself, and a range has what it contains or contains the upper
case of; in both cases it is the folded character that is asked for. -/
def Member.has (folding : Folding) (ascii : Bool) (c : Char) : Member → Bool
  | literal code =>
    if code ≤ lastBasic then folding.same code c.toNat else folding.fold c.toNat == code
  | range first last =>
    let folded := folding.fold c.toNat
    match folding with
    | .exact => within first last folded
    | _ =>
      (folding.sources folded).any (fun code => within first (min last lastBasic) code)
        || (lastBasic < last && (within first last folded || within first last (upperCode folded)))
  | category k => k.has ascii c
where
  within (first last code : Nat) : Bool := first ≤ code && code ≤ last

/-- Whether case makes a difference for the member. For what lies beyond the basic plane it is
taken to, if case is ignored at all. -/
def Member.isCased (folding : Folding) : Member → Bool
  | literal code => folding ≠ .exact && (lastBasic < code || folding.isCased code)
  | range first last => folding ≠ .exact && (lastBasic < last || folding.hasCasedIn first last)
  | category _ => false

inductive CharTest where
  | literal (folding : Folding) (code : Nat)
  | notLiteral (folding : Folding) (code : Nat)
  | any
  /-- Any character but the end of a line. -/
  | anyInLine
  | oneOf (folding : Folding) (ascii : Bool) (members : List Member)
  | noneOf (folding : Folding) (ascii : Bool) (members : List Member)
  deriving DecidableEq

namespace CharTest

def accepts (c : Char) : CharTest → Bool
  | literal folding code => folding.same code c.toNat
  | notLiteral folding code => !folding.same code c.toNat
  | any => true
  | anyInLine => c != '\n'
  | oneOf folding ascii members => members.any (Member.has folding ascii c)
  | noneOf folding ascii members => !members.any (Member.has folding ascii c)

def code? : CharTest → Option Nat
  | literal folding code => if folding.isCased code then none else some code
  | _ => none

def isPlain : CharTest → Bool
  | literal folding code => !folding.isCased code
  | oneOf folding _ members | noneOf folding _ members => !members.any (Member.isCased folding)
  | notLiteral _ _ | any | anyInLine => false

/-- Whether the test compares each character with several: with the members of a set whose case is
ignored, or with lower-case characters that are akin. -/
def isComposite : CharTest → Bool
  | literal folding code | notLiteral folding code =>
    folding = .unicode && (akin (lowerCode code)).length ≠ 1
  | oneOf folding _ members | noneOf folding _ members => members.any (Member.isCased folding)
  | any | anyInLine => false

end CharTest

end JournalSearch.Pattern
