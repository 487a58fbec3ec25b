import JournalSearch.Pattern.Basic
import JournalSearch.Pattern.State

/-!
Matching patterns. Alternatives are tried in order, and a failure later on goes back to the last
decision that can be made otherwise. So a way to match is given two functions: its goal is what is
to be done after it has matched, which may come back with a failure, and it resumes what is to be
done after it has failed.
-/
namespace JournalSearch.Pattern

abbrev Resume := State → Option State

abbrev Goal := State → Resume → Option State

abbrev Step := State → Goal → Resume → Option State

/-- The text, and what is known of the place of a node in its pattern. -/
structure Context where
  text : Array Char
  /-- The node lies in a repetition of more than single characters. -/
  repeating : Bool
  /-- What the next node tests, if it is a test. -/
  next : Option CharTest

/-! Characters and positions -/

def isWordAt (ascii : Bool) (text : Array Char) (position : Nat) : Bool :=
  text[position]?.any (isWordChar ascii)

def isWordEdge (ascii : Bool) (text : Array Char) (position : Nat) : Bool :=
  (0 < position && isWordAt ascii text (position - 1)) != isWordAt ascii text position

/-- Whether a position satisfies the anchor. The empty text has neither word boundaries nor places
inside or outside of words. -/
def Anchor.holds (text : Array Char) (position : Nat) : Anchor → Bool
  | textStart => position = 0
  | textEnd => position = text.size
  | lastLineEnd =>
    position = text.size || (position + 1 = text.size && text[position]? = some '\n')
  | lineStart => position = 0 || text[position - 1]? = some '\n'
  | lineEnd => position = text.size || text[position]? = some '\n'
  | wordBoundary ascii => text.size ≠ 0 && isWordEdge ascii text position
  | notWordBoundary ascii => text.size ≠ 0 && !isWordEdge ascii text position

def passes (text : Array Char) (t : CharTest) (position : Nat) : Bool :=
  text[position]?.any t.accepts

def passing (text : Array Char) (t : CharTest) (position : Nat) : (limit : Nat) → Nat
  | 0 => 0
  | limit + 1 =>
    if passes text t position then passing text t (position + 1) limit + 1 else 0

def repeatsFrom (folding : Folding) (text : Array Char) (first position : Nat) : Nat → Bool
  | 0 => true
  | count + 1 =>
    match text[first]?, text[position]? with
    | some c, some d =>
      folding.fold c.toNat == folding.fold d.toNat
        && repeatsFrom folding text (first + 1) (position + 1) count
    | _, _ => false

/-! Repetitions of single characters -/

/-- Goes on after so many characters. A plain character that has to come next is looked for
first. -/
def continueAfter (c : Context) (count : Nat) : Step := fun s goal resume =>
  let reached := s.position + count
  if (c.next.filter (·.code?.isSome)).all (passes c.text · reached) then
    goal { s with position := reached }.settle fun s' => resume (s'.back s c.repeating)
  else resume s

def giveBack (c : Context) : (count : Nat) → Step
  | 0 => continueAfter c 0
  | count + 1 => fun s goal resume =>
    continueAfter c (count + 1) s goal fun s => giveBack c count s goal resume

def takeMore (c : Context) (t : CharTest) : (left : Nat) → Step
  | left, s, goal, resume =>
    goal s.settle fun s' =>
      let s := (s'.back s c.repeating).settle
      if passes c.text t s.position then
        let passed := { s with position := s.position + 1 }
        let s := if t.isComposite then { s with cursor := passed.position } else s
        match left with
        | 0 => resume s
        | left + 1 => takeMore c t left { s with position := passed.position } goal resume
      else resume s

/-- Repetitions of a test. Characters that a composite test accepts move the cursor. -/
def repeatTest (c : Context) (least : Nat) (greatest : Option Nat) (greed : Greed)
    (t : CharTest) : Step := fun s goal resume =>
  let room := c.text.size - s.position
  if room < least then resume s
  else
    let limit := greatest.elim room (min room)
    let count := passing c.text t s.position (if greed = .lazy then least else limit)
    let after (n : Nat) (s : State) : State := { s with position := s.position + n }
    let s := if t.isComposite then { s with cursor := s.position + count } else s.settle
    if count < least then resume s
    else
      match greed with
      | .greedy => giveBack c (count - least) (after least s) goal resume
      | .lazy => takeMore c t (limit - least) (after least s) goal resume
      | .possessive => goal (after count s) resume

/-! Repetitions -/

/-- How many repetitions may be tried after those that have to be: if there is no greatest number,
as many as there are pairs of positions between which one may lead. -/
def spare (text : Array Char) (least : Nat) (greatest : Option Nat) : Nat :=
  greatest.elim ((text.size + 1) * (text.size + 1)) (· - least)

def times (body : Step) : Nat → Step
  | 0, s, goal, resume => goal s resume
  | count + 1, s, goal, resume =>
    body s.settle (fun s resume => times body count s goal resume)
      fun s' => resume { s' with cursor := s.position }

/-- Repetitions that may be, at most `left` of them, and what comes after them only once no more
match. None starts at `last`, where the one before it started. -/
def asMany (body : Step) : (left : Nat) → (last : Option Nat) → Step
  | left, last, s, goal, resume =>
    let finish (s : State) := goal s.settle fun s' => resume { s' with cursor := s.position }
    match left with
    | 0 => finish s
    | left + 1 =>
      if last = some s.position then finish s
      else
        body s.settle (fun s' resume => asMany body left (some s.position) s' goal resume)
          fun s' => finish (s'.back s true)

def asFew (whole : Bool) (body : Step) : (left : Nat) → (last : Option Nat) → Step
  | left, last, s, goal, resume =>
    goal s.settle fun s' =>
      let s := (s'.back s whole).settle
      match left with
      | 0 => resume s
      | left + 1 =>
        if last = some s.position then resume s
        else
          body s (fun s' resume => asFew whole body left (some s.position) s' goal resume)
            fun s' => resume { s' with cursor := s.position }

def timesFirst (body : Step) : Nat → State → (State → Option State) → Resume → Option State
  | 0, s, goal, _ => goal s
  | count + 1, s, goal, resume =>
    body s (fun s _ => timesFirst body count s.settle goal resume) resume

/-- As many repetitions as may be, each matched in its first way only. The one that fails sets the
position: it is where the cursor has come to, not where the repetition set out. -/
def asManyFirst (body : Step) :
    (left : Nat) → (last : Option Nat) → State → (State → Option State) → Option State
  | 0, _, s, goal => goal s
  | left + 1, last, s, goal =>
    if last = some s.position then goal s
    else
      body s (fun s' _ => asManyFirst body left (some s.position) s'.settle goal) fun s' =>
        let s := s'.back s true
        goal { s with position := s.cursor }

def repeatBody (c : Context) (least : Nat) (greatest : Option Nat) (greed : Greed)
    (body : Step) : Step := fun s goal resume =>
  let left := spare c.text least greatest
  match greed with
  | .greedy => times body least s (fun s resume => asMany body left none s goal resume) resume
  | .lazy =>
    times body least s (fun s resume => asFew c.repeating body left none s goal resume) resume
  | .possessive =>
    timesFirst body least s.settle
      (fun s => asManyFirst body left none s fun s => goal s resume)
      fun s' => resume { s' with cursor := s.position }

/-! Nodes -/

/-- Looks at a body that starts elsewhere, without moving on. What it captures is kept. -/
def look (body : Step) (start : Nat) : Step := fun s goal resume =>
  body { s with position := start, cursor := start }
    (fun s' _ => goal { s'.settle with position := s.position } resume) resume

def lookNot (whole : Bool) (body : Step) (start : Nat) : Step := fun s goal resume =>
  body { s with position := start, cursor := start } (fun s' _ => resume s'.settle)
    fun s' => goal (s'.back s whole) resume

def firstWay (body : Step) : Step := fun s goal resume =>
  body s.settle (fun s' _ => goal s'.settle resume)
    fun s' => resume { s' with cursor := s.position }

mutual

def Node.test? : Node → Option CharTest
  | .one t => some t
  | .group body | .scoped body => testOf? body
  | _ => none

def testOf? : List Node → Option CharTest
  | [n] => n.test?
  | _ => none

end

mutual

def Node.firstTest (next : Option CharTest) : Node → Option CharTest
  | .one t => some t
  | .group body | .scoped body => firstTestOf next body
  | _ => none

def firstTestOf (next : Option CharTest) : List Node → Option CharTest
  | [] => next
  | n :: nodes => n.firstTest (firstTestOf next nodes)

end

/-- Whether a branch that begins with a test of plain characters has to be looked at. -/
def mayMatch (text : Array Char) (branch : List Node) (position : Nat) : Bool :=
  ((firstTestOf none branch).filter CharTest.isPlain).all (passes text · position)

mutual

def Node.run (c : Context) : Node → Step
  | .one t => fun s goal resume =>
    if passes c.text t s.position then goal { s with position := s.position + 1 } resume
    else resume s
  | .anchor a => fun s goal resume =>
    if a.holds c.text s.position then goal s resume else resume s
  | .backreference folding number => fun s goal resume =>
    match s.captured? number with
    | some (first, last) =>
      if repeatsFrom folding c.text first s.position (last - first) then
        goal { s with position := s.position + (last - first) } resume
      else resume s
    | none => resume s
  | .capture number body => fun s goal resume =>
    runAll { c with next := none } body (s.opening number)
      (fun s resume => goal (s.closing number) resume) resume
  | .group body | .scoped body => runAll c body
  | .atomic body => firstWay (runAll { c with next := none } body)
  | .choice branches => runAny { c with next := none } branches
  | .repeated least greatest greed body =>
    match testOf? body with
    | some t => repeatTest c least greatest greed t
    | none =>
      let inside := { c with repeating := c.repeating || greed ≠ .possessive, next := none }
      repeatBody c least greatest greed (runAll inside body)
  | .lookAhead wanted body => fun s =>
    let body := runAll { c with next := none } body
    if wanted then look body s.position s else lookNot c.repeating body s.position s
  | .lookBehind wanted width body => fun s goal resume =>
    let body := runAll { c with next := none } body
    if width.least ≤ s.position then
      let start := s.position - width.least
      if wanted then look body start s goal resume
      else lookNot c.repeating body start s goal resume
    else if wanted then resume s
    else goal s resume
  | .conditional number yes no => fun s goal resume =>
    if (s.captured? number).isSome then
      runAll (if no.isEmpty then c else { c with next := none }) yes s goal resume
    else runAll c no s goal resume

def runAll (c : Context) : List Node → Step
  | [] => fun s goal => goal s
  | n :: nodes => fun s goal resume =>
    n.run { c with next := firstTestOf c.next nodes } s
      (fun s resume => runAll c nodes s goal resume) resume

def runAny (c : Context) : List (List Node) → Step
  | [] => fun s _ resume => resume s
  | branch :: branches => fun s goal resume =>
    if mayMatch c.text branch s.position then
      runAll c branch s.settle goal fun s' =>
        runAny c branches (s'.back s c.repeating) goal resume
    else runAny c branches s goal resume

end

def matchAt? (nodes : List Node) (text : Array Char) (position : Nat) : Option State :=
  runAll ⟨text, false, none⟩ nodes (.initial position) (fun s _ => some s) fun _ => none

end JournalSearch.Pattern
