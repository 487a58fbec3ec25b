import JournalSearch.Text.Basic

/-!
The tokens of a search expression, and the labels that say what a token is about. Blanks and line
ends separate tokens, but not within quotes. A label may stand right before an opening quote; the
quotes are taken off and the label is kept. A quoted form counts only if a separator or the end of
the text follows it, and what has none is plain: a run of characters up to the next separator.
-/
namespace JournalSearch.Expression

/-! Labels -/

inductive Field where
  | focusExactly
  | focus
  | description
  | account
  | date
  | effectiveDate
  | cleared
  | real
  | showEmpty
  | depth
  deriving DecidableEq

namespace Field

def all : List Field :=
  [focusExactly, focus, description, account, date, effectiveDate, cleared, real, showEmpty, depth]

def label : Field → String
  | focusExactly => "inacctonly:"
  | focus => "inacct:"
  | description => "desc:"
  | account => "acct:"
  | date => "date:"
  | effectiveDate => "edate:"
  | cleared => "status:"
  | real => "real:"
  | showEmpty => "empty:"
  | depth => "depth:"

def labels : List String := all.map label

end Field

def negation : String := "not:"

/-! Tokens -/

inductive Shape where
  | labelledQuoted
  | quoted
  | plain
  deriving DecidableEq

structure Token where
  shape : Shape
  value : String
  /-- The number of characters before the token. -/
  position : Nat
  deriving DecidableEq

def isSeparator (c : Char) : Bool := c = ' ' || c = '\n' || c = '\r'

def isQuote (c : Char) : Bool := c = '\x27' || c = '\x22'

/-- What is read at the start of a text: a token's shape and value, and the text after it. -/
structure Lexeme where
  shape : Shape
  value : List Char
  rest : List Char
  deriving DecidableEq

def Lexeme.isWhole (l : Lexeme) : Bool := l.rest.head?.all isSeparator

/-- A quote, a phrase without quotes and a quote: the phrase and what follows. The two quotes may
differ. -/
def phrase? : List Char → Option (List Char × List Char)
  | [] => none
  | opening :: text =>
    if isQuote opening then
      match text.dropWhile (!isQuote ·) with
      | [] => none
      | _ :: rest => some (text.takeWhile (!isQuote ·), rest)
    else none

/-- The heads that may stand before a quoted phrase, in the order in which they are tried: each
label after a negation, the negation alone, each label alone. Longer labels come first. The empty
label as the only one is no label. -/
def heads (labels : List String) : List (List Char) :=
  let sorted := (labels.mergeSort fun a b => b.length ≤ a.length).map String.toList
  if sorted = [] ∨ sorted = [[]] then [negation.toList]
  else sorted.map (negation.toList ++ ·) ++ negation.toList :: sorted

def labelledQuoted? (heads : List (List Char)) (text : List Char) : Option Lexeme :=
  heads.findSome? fun head => do
    let (phrase, rest) ← phrase? (← head.isPrefixOf? text)
    return ⟨.labelledQuoted, head ++ phrase, rest⟩

def quoted? (text : List Char) : Option Lexeme :=
  (phrase? text).map fun (phrase, rest) => ⟨.quoted, phrase, rest⟩

def plain (text : List Char) : Lexeme :=
  ⟨.plain, text.takeWhile (!isSeparator ·), text.dropWhile (!isSeparator ·)⟩

/-- Reads one token. Only the first head that fits is looked at. -/
def lexeme (heads : List (List Char)) (text : List Char) : Lexeme :=
  (((labelledQuoted? heads text).filter Lexeme.isWhole)
    <|> ((quoted? text).filter Lexeme.isWhole)).getD (plain text)

theorem length_rest_of_phrase? {text phrase rest : List Char}
    (h : phrase? text = some (phrase, rest)) : rest.length < text.length := by
  cases text with
  | nil => cases h
  | cons opening text =>
    have hdrop : (text.dropWhile (!isQuote ·)).length ≤ text.length :=
      (List.dropWhile_sublist _).length_le
    rw [phrase?] at h
    split at h
    · split at h
      · cases h
      · next hfound =>
        cases h
        rw [hfound, List.length_cons] at hdrop
        exact Nat.lt_succ_of_lt hdrop
    · cases h

/-- Whatever is read, it is not empty. -/
theorem length_rest_lexeme (heads : List (List Char)) {c : Char} (cs : List Char)
    (h : isSeparator c = false) : (lexeme heads (c :: cs)).rest.length < (c :: cs).length := by
  rw [lexeme]
  cases labelled : (labelledQuoted? heads (c :: cs)).filter Lexeme.isWhole with
  | some l =>
    obtain ⟨found, -⟩ := Option.filter_eq_some_iff.mp labelled
    obtain ⟨head, -, read⟩ := List.exists_of_findSome?_eq_some found
    cases begins : head.isPrefixOf? (c :: cs) with
    | none => simp [begins] at read
    | some text =>
      cases hp : phrase? text with
      | none => simp [begins, hp] at read
      | some pair =>
        simp only [begins, hp, Option.bind_eq_bind, Option.bind_some, Option.pure_def,
          Option.some.injEq] at read
        obtain rfl := read
        have whole := Text.length_of_isPrefixOf? begins
        have shorter := length_rest_of_phrase? hp
        change pair.2.length < (c :: cs).length
        omega
  | none =>
    cases quote : (quoted? (c :: cs)).filter Lexeme.isWhole with
    | some l =>
      obtain ⟨found, -⟩ := Option.filter_eq_some_iff.mp quote
      obtain ⟨pair, hp, rfl⟩ := Option.map_eq_some_iff.mp found
      exact length_rest_of_phrase? hp
    | none =>
      have hdrop : (cs.dropWhile (!isSeparator ·)).length ≤ cs.length :=
        (List.dropWhile_sublist _).length_le
      change ((c :: cs).dropWhile (!isSeparator ·)).length < (c :: cs).length
      rw [List.dropWhile_cons_of_pos (by simp [h])]
      exact Nat.lt_succ_of_le hdrop

/-- The tokens of a text before which that many characters stand. -/
def tokensAt (heads : List (List Char)) (position : Nat) : List Char → List Token
  | [] => []
  | c :: cs =>
    if h : isSeparator c then tokensAt heads (position + 1) cs
    else
      let l := lexeme heads (c :: cs)
      ⟨l.shape, String.ofList l.value, position⟩ ::
        tokensAt heads (position + ((c :: cs).length - l.rest.length)) l.rest
termination_by text => text.length
decreasing_by
  · exact Nat.lt_succ_self _
  · exact length_rest_lexeme heads cs (by simpa using h)

def tokens (labels : List String) (text : String) : List Token :=
  tokensAt (heads labels) 0 text.toList

end JournalSearch.Expression
