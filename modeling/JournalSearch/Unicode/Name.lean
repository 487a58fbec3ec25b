import JournalSearch.Unicode.CharClass
import JournalSearch.Unicode.Name.Alias
import JournalSearch.Unicode.Name.BasicPlane
import JournalSearch.Unicode.Name.GeneralScripts
import JournalSearch.Unicode.Name.HistoricScripts
import JournalSearch.Unicode.Name.Notations
import JournalSearch.Unicode.Name.Pictographs
import JournalSearch.Unicode.Name.Symbols

/-!
Which character a name belongs to. Most names are listed. Those of Hangul syllables are made of the
names of their parts, and those of ideographs end in the code point.
-/
namespace JournalSearch.Unicode

/-! Hangul -/

/-- The consonants with which a syllable may begin. One of them is silent. -/
def initialSounds : List String :=
  ["G", "GG", "N", "D", "DD", "R", "M", "B", "BB", "S", "SS", "", "J", "JJ", "C", "K", "T", "P",
    "H"]

def vowels : List String :=
  ["A", "AE", "YA", "YAE", "EO", "E", "YEO", "YE", "O", "WA", "WAE", "OE", "YO", "U", "WEO", "WE",
    "WI", "YU", "EU", "YI", "I"]

def finalSounds : List String :=
  ["", "G", "GG", "GS", "N", "NJ", "NH", "D", "L", "LG", "LM", "LB", "LS", "LT", "LP", "LH", "M",
    "B", "BS", "S", "SS", "NG", "J", "C", "K", "T", "P", "H"]

def longestSound? (sounds : List String) (text : List Char) : Option (Nat × List Char) := do
  let longer (s t : String) := if s.length < t.length then t else s
  let sound ← (sounds.filter fun s => s.toList.isPrefixOf text) |>.foldl
    (fun best s => some (best.elim s (longer · s))) none
  return (← sounds.idxOf? sound, text.drop sound.length)

def syllable? (text : List Char) : Option Nat := do
  let (initial, text) ← longestSound? initialSounds text
  let (vowel, text) ← longestSound? vowels text
  let (final, text) ← longestSound? finalSounds text
  if text = [] then
    return 0xac00 + (initial * vowels.length + vowel) * finalSounds.length + final
  else none

/-! Ideographs -/

def capitalHexValue? (c : Char) : Option Nat :=
  if c.isDigit then some (c.toNat - '0'.toNat)
  else if 'A' ≤ c ∧ c ≤ 'F' then some (c.toNat - 'A'.toNat + 10)
  else none

def writtenCode? (digits : List Char) : Option Nat := do
  if digits.length = 4 ∨ digits.length = 5 then
    return (← digits.mapM capitalHexValue?).foldl (16 * · + ·) 0
  else none

def unifiedIdeographs : List (Nat × Nat) := [
  (0x3400, 0x4dbf), (0x4e00, 0x9fff), (0x20000, 0x2a6df), (0x2a700, 0x2b738), (0x2b740, 0x2b81d),
  (0x2b820, 0x2cea1), (0x2ceb0, 0x2ebe0), (0x30000, 0x3134a)]

/-- Further characters whose names are a phrase and the code point without leading zeros. -/
def numberedCharacters : List (String × List (Nat × Nat)) := [
  ("CJK COMPATIBILITY IDEOGRAPH-", [(0xf900, 0xfa6d), (0xfa70, 0xfad9), (0x2f800, 0x2fa1d)]),
  ("KHITAN SMALL SCRIPT CHARACTER-", [(0x18b00, 0x18cd5)]),
  ("NUSHU CHARACTER-", [(0x1b170, 0x1b2fb)])]

def unifiedIdeograph? (digits : List Char) : Option Nat := do
  let code ← writtenCode? digits
  if inRanges code unifiedIdeographs then return code else none

def numbered? (name : List Char) : Option Nat :=
  numberedCharacters.findSome? fun (phrase, codes) => do
    let digits ← phrase.toList.isPrefixOf? name
    let code ← writtenCode? digits
    if inRanges code codes ∧ digits.head? ≠ some '0' then return code else none

/-! Listed names -/

def nameRuns : List NameRun :=
  generalScriptNames ++ symbolNames ++ basicPlaneNames ++ historicScriptNames ++ notationNames
    ++ pictographNames

def listed? (name : List Char) : Option Nat :=
  match nameAliases.lookup (String.ofList name) with
  | some code => some code
  | none => nameRuns.findSome? (·.codeOf? (name.splitOn ' '))

/-- The code point of the character with the name. Small letters are as good as capitals, but not
in the names of syllables and of unified ideographs. -/
def codeOfName? (name : List Char) : Option Nat :=
  match "HANGUL SYLLABLE ".toList.isPrefixOf? name,
    "CJK UNIFIED IDEOGRAPH-".toList.isPrefixOf? name with
  | some sounds, _ => syllable? sounds
  | none, some digits => unifiedIdeograph? digits
  | none, none =>
    let capitals := name.map Char.toUpper
    (numbered? capitals).or (listed? capitals)

end JournalSearch.Unicode
