import JournalSearch.Pattern.Reader

/-!
Letters that change the settings, for a group or for the whole pattern.
-/
namespace JournalSearch.Pattern

open Reader

inductive Flag where
  | ascii
  | ignoreCase
  | locale
  | multiline
  | dotAll
  | template
  | unicode
  | verbose
  deriving DecidableEq

namespace Flag

def ofChar? : Char → Option Flag
  | 'a' => some ascii
  | 'i' => some ignoreCase
  | 'L' => some locale
  | 'm' => some multiline
  | 's' => some dotAll
  | 't' => some template
  | 'u' => some unicode
  | 'x' => some verbose
  | _ => none

/-- Flags that say which characters are letters. One excludes the others. -/
def isType (f : Flag) : Bool := f = ascii || f = locale || f = unicode

def turnOn (s : Settings) : Flag → Settings
  | ascii => { s with ascii := true }
  | unicode => { s with ascii := false }
  | ignoreCase => { s with ignoreCase := true }
  | multiline => { s with multiline := true }
  | dotAll => { s with dotAll := true }
  | verbose => { s with verbose := true }
  | locale | template => s

def turnOff (s : Settings) : Flag → Settings
  | ignoreCase => { s with ignoreCase := false }
  | multiline => { s with multiline := false }
  | dotAll => { s with dotAll := false }
  | verbose => { s with verbose := false }
  | ascii | unicode | locale | template => s

end Flag

inductive FlagGroup where
  /-- Settings for the whole pattern. -/
  | forAll (on : List Flag)
  /-- Settings for the group that follows. -/
  | forGroup (on off : List Flag)

def flagOf : Token → Reader Flag
  | .plain c =>
    match Flag.ofChar? c with
    | some f => return f
    | none => malformed
  | _ => malformed

def flagsOn : Nat → List Flag → Flag → Reader (List Flag × Char)
  | 0, _, _ => malformed
  | fuel + 1, found, f => do
    let on := f :: found
    if f = .locale ∨ (f.isType ∧ on.any fun g => g.isType ∧ g ≠ f) then malformed
    match ← next with
    | .plain ')' => return (on, ')')
    | .plain '-' => return (on, '-')
    | .plain ':' => return (on, ':')
    | t => flagsOn fuel on (← flagOf t)

def flagsOff : Nat → List Flag → Flag → Reader (List Flag)
  | 0, _, _ => malformed
  | fuel + 1, found, f => do
    if f.isType then malformed
    match ← next with
    | .plain ':' => return f :: found
    | t => flagsOff fuel (f :: found) (← flagOf t)

def flagGroup (first : Char) : Reader FlagGroup := do
  let fuel := (← remaining) + 1
  let (on, stop) ← if first = '-' then pure ([], '-') else flagsOn fuel [] (← flagOf (.plain first))
  if stop = ')' then return .forAll on
  if .template ∈ on then malformed
  let off ← if stop = '-' then flagsOff fuel [] (← flagOf (← next)) else pure []
  if .template ∈ off ∨ on.any (off.contains ·) then malformed
  return .forGroup on off

def groupSettings (s : Settings) (on off : List Flag) : Settings :=
  off.foldl Flag.turnOff (on.foldl Flag.turnOn s)

/-- Changes the settings of the whole pattern. Asking for ASCII is not taken back. -/
def applyToAll (on : List Flag) : Reader Unit := modify fun p =>
  { p with
    settings :=
      { on.foldl Flag.turnOn p.settings with ascii := p.settings.ascii || on.contains .ascii }
    unicodeAsked := p.unicodeAsked || on.contains .unicode
    template := p.template || on.contains .template }

end JournalSearch.Pattern
