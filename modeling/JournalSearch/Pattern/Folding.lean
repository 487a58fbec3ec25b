import JournalSearch.Unicode.Case

/-!
When characters count as equal if letter case is ignored: if their lower cases are equal, or share
an upper case. Code points stand for characters here, since a pattern may also name code points
that no text has.
-/
namespace JournalSearch.Pattern

open Unicode (lowerCode lowerSources upperCode)

inductive Folding where
  /-- Each character equals itself only. -/
  | exact
  /-- The case of ASCII letters is ignored. -/
  | ascii
  /-- The case of all letters is ignored. -/
  | unicode
  deriving DecidableEq

/-- Lower-case characters that share an upper case. -/
def akinClasses : List (List Nat) := [
  [0x69, 0x131], [0x73, 0x17f], [0xb5, 0x3bc], [0x345, 0x3b9, 0x1fbe], [0x390, 0x1fd3],
  [0x3b0, 0x1fe3], [0x3b2, 0x3d0], [0x3b5, 0x3f5], [0x3b8, 0x3d1], [0x3ba, 0x3f0],
  [0x3c0, 0x3d6], [0x3c1, 0x3f1], [0x3c2, 0x3c3], [0x3c6, 0x3d5], [0x432, 0x1c80],
  [0x434, 0x1c81], [0x43e, 0x1c82], [0x441, 0x1c83], [0x442, 0x1c84, 0x1c85], [0x44a, 0x1c86],
  [0x463, 0x1c87], [0x1c88, 0xa64b], [0x1e61, 0x1e9b], [0xfb05, 0xfb06]]

def akin (code : Nat) : List Nat := (akinClasses.find? (·.contains code)).getD [code]

def asciiLower (code : Nat) : Nat := if 0x41 ≤ code ∧ code ≤ 0x5a then code + 0x20 else code

namespace Folding

def fold : Folding → Nat → Nat
  | exact, code => code
  | ascii, code => asciiLower code
  | unicode, code => lowerCode code

def isCased : Folding → Nat → Bool
  | exact, _ => false
  | ascii, code => (0x41 ≤ code && code ≤ 0x5a) || (0x61 ≤ code && code ≤ 0x7a)
  | unicode, code => lowerCode code ≠ code || upperCode code ≠ code

def hasCasedIn : Folding → (first last : Nat) → Bool
  | exact, _, _ => false
  | ascii, first, last => (first ≤ 0x5a && 0x41 ≤ last) || (first ≤ 0x7a && 0x61 ≤ last)
  | unicode, first, last => Unicode.hasCasedIn first last

def same (f : Folding) (a b : Nat) : Bool :=
  match f with
  | exact | ascii => f.fold a == f.fold b
  | unicode => (akin (lowerCode a)).contains (lowerCode b)

/-- The code points that count as equal to one that is folded already. -/
def sources (f : Folding) (folded : Nat) : List Nat :=
  match f with
  | exact => [folded]
  | ascii => if 0x61 ≤ folded ∧ folded ≤ 0x7a then [folded, folded - 0x20] else [folded]
  | unicode => (akin folded).flatMap lowerSources

end Folding

def sameLetter (c d : Char) : Bool := Folding.unicode.same c.toNat d.toNat

def startsWith : List Char → List Char → Bool
  | [], _ => true
  | _ :: _, [] => false
  | c :: phrase, d :: text => sameLetter c d && startsWith phrase text

def occursIn (phrase : List Char) : List Char → Bool
  | [] => startsWith phrase []
  | d :: text => startsWith phrase (d :: text) || occursIn phrase text

end JournalSearch.Pattern
