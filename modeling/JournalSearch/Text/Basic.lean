import JournalSearch.Unicode.CharClass
import JournalSearch.Unicode.LowerText
import JournalSearch.Unicode.Printable

/-!
Texts. Words are what stands between white space of any kind and length. Integers are decimal, and
a text of more than 4300 digits is refused, leading zeros counted; they are written without leading
zeros, and negative ones after a minus. In messages texts stand in quotes: single ones are the
rule, and double ones are taken for a text that has single quotes and no double ones. The quote in
use, the backslash and whatever has no visible form are written as escapes there.
-/
namespace JournalSearch.Text

open Unicode (isPrintable isSpace lowerText)

theorem length_of_isPrefixOf? {start text rest : List Char}
    (h : start.isPrefixOf? text = some rest) : text.length = start.length + rest.length := by
  induction start generalizing text with
  | nil =>
    cases h
    exact (Nat.zero_add _).symm
  | cons c start ih =>
    cases text with
    | nil => cases h
    | cons d text =>
      change (if c == d then start.isPrefixOf? text else none) = some rest at h
      split at h
      · rw [List.length_cons, List.length_cons, ih h, Nat.add_right_comm]
      · cases h

/-! Words -/

def words (text : List Char) : List String :=
  ((text.splitOnP isSpace).filter (· ≠ [])).map String.ofList

def lowerWords (text : String) : List String := words (lowerText text.toList)

def unwords (ws : List String) : String := " ".intercalate ws

/-! Integers -/

def maxDigits : Nat := 4300

/-- The refusal of a number with so many digits. -/
structure TooManyDigits where
  digits : Nat
  deriving DecidableEq

def TooManyDigits.message (e : TooManyDigits) : String :=
  s!"Exceeds the limit ({maxDigits} digits) for integer string conversion: value has " ++
    s!"{e.digits} digits; use sys.set_int_max_str_digits() to increase the limit"

def ofDigits (digits : List Nat) : Nat := digits.foldl (10 * · + ·) 0

/-- The number that digits write, if they are not too many. -/
def ofDigits? (digits : List Nat) : Except TooManyDigits Nat :=
  if maxDigits < digits.length then .error ⟨digits.length⟩ else .ok (ofDigits digits)

def asciiDigits? (text : List Char) : Option (List Nat) :=
  if text ≠ [] ∧ text.all Char.isDigit then some (text.map fun c => c.toNat - '0'.toNat) else none

/-- Reads a plain integer: ASCII digits, perhaps after a minus. Any other text gives the
default. -/
def readInt (default : Int) (text : String) : Except TooManyDigits Int :=
  match text.toList with
  | '-' :: digits =>
    match asciiDigits? digits with
    | some ds => return -(← ofDigits? ds)
    | none => return default
  | digits =>
    match asciiDigits? digits with
    | some ds => return (← ofDigits? ds)
    | none => return default

def writeInt : Int → String
  | .ofNat n => String.ofList (Nat.toDigits 10 n)
  | .negSucc n => String.ofList ('-' :: Nat.toDigits 10 (n + 1))

/-! Quotes -/

def singleQuote : Char := '\x27'

def doubleQuote : Char := '\x22'

def hexDigits : (width : Nat) → Nat → List Char
  | 0, _ => []
  | width + 1, n => hexDigits width (n / 16) ++ [Nat.digitChar (n % 16)]

def codeEscape (code : Nat) : List Char :=
  if code ≤ 0xff then '\\' :: 'x' :: hexDigits 2 code
  else if code ≤ 0xffff then '\\' :: 'u' :: hexDigits 4 code
  else '\\' :: 'U' :: hexDigits 8 code

def quoteChar (quote c : Char) : List Char :=
  if c = quote ∨ c = '\\' then ['\\', c]
  else if c = '\t' then ['\\', 't']
  else if c = '\n' then ['\\', 'n']
  else if c = '\r' then ['\\', 'r']
  else if isPrintable c then [c]
  else codeEscape c.toNat

def quoteFor (text : List Char) : Char :=
  if singleQuote ∈ text ∧ doubleQuote ∉ text then doubleQuote else singleQuote

def quoted (text : String) : String :=
  let quote := quoteFor text.toList
  String.ofList (quote :: text.toList.flatMap (quoteChar quote) ++ [quote])

end JournalSearch.Text
