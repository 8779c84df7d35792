/-
Module: Playhouse.Text.LetterCase
Purpose: Lower, upper and title case of whole texts, and letters compared
  without regard to case.
Main exports: lowerLetter, lower, upper, title, sameLetter
-/
import Playhouse.Text.CaseTable

namespace Playhouse.Text

/-! ### Single letters -/

/-- Move a character by the run of a table that holds it, if one does. -/
def moveCase (runs : List CaseRun) (c : Char) : Char :=
  match runs.findSome? (CaseRun.shift? c.toNat) with
  | some point => Char.ofNat point
  | none => c

/-- The lower-case counterpart of one character, always a single character. -/
def lowerLetter (c : Char) : Char :=
  if c.toNat < 128 then c.toLower else moveCase lowerRuns c

/-- Whether a character has a case, so that the next letter continues a word. -/
def isCased (c : Char) : Bool :=
  if c.toNat < 128 then c.isAlpha else Interval.contains casedIntervals c.toNat

/-- Whether the rule for a final sigma looks through a character. -/
def isCaseIgnorable (c : Char) : Bool :=
  if c.toNat < 128 then c ∈ ['\x27', '.', ':', '^', '\x60']
  else Interval.contains caseIgnorableIntervals c.toNat

/-- The upper-case form of one character, which may take several. -/
def upperLetter (c : Char) : List Char :=
  if c.toNat < 128 then [c.toUpper]
  else
    match upperSpellings.lookup c.toNat with
    | some spelling => spelling.map Char.ofNat
    | none => [moveCase upperRuns c]

/-- The form of one character at the start of a word, which may take several. -/
def titleLetter (c : Char) : List Char :=
  if c.toNat < 128 then [c.toUpper]
  else
    match titleSpellings.lookup c.toNat with
    | some spelling => spelling.map Char.ofNat
    | none => [moveCase titleRuns c]

/-! ### Whole texts -/

/-- A capital sigma ends a word when a cased character stands before it and none
after it, looking through ignorable characters on both sides.  `before` holds
the text in front of the sigma, nearest character first. -/
def endsWord (before after : List Char) : Bool :=
  (before.dropWhile isCaseIgnorable).head?.any isCased &&
    !(after.dropWhile isCaseIgnorable).head?.any isCased

/-- The lower-case form of one character in its place.  Only the dotted capital
I takes two characters, and only the capital sigma depends on its neighbours. -/
def lowerInPlace (before : List Char) (c : Char) (after : List Char) : List Char :=
  if c == '\u0130' then ['i', '\u0307']
  else if c == '\u03a3' then [if endsWord before after then '\u03c2' else '\u03c3']
  else [lowerLetter c]

/-- Lower case of a text whose beginning, nearest character first, is `before`. -/
def lowerFrom (before : List Char) : List Char → List Char
  | [] => []
  | c :: rest => lowerInPlace before c rest ++ lowerFrom (c :: before) rest

/-- A text in lower case. -/
def lower (text : List Char) : List Char :=
  lowerFrom [] text

/-- A text in upper case. -/
def upper (text : List Char) : List Char :=
  text.flatMap upperLetter

/-- Title case of a text whose beginning, nearest character first, is `before`:
a character after a cased one goes to lower case, any other to its form at the
start of a word. -/
def titleFrom (before : List Char) : List Char → List Char
  | [] => []
  | c :: rest =>
      (if before.head?.any isCased then lowerInPlace before c rest else titleLetter c) ++
        titleFrom (c :: before) rest

/-- A text with every word capitalised. -/
def title (text : List Char) : List Char :=
  titleFrom [] text

/-! ### Letters without case -/

/-- Whether two characters are the same letter when case is ignored: their
lower-case counterparts are equal or listed as variants of one letter.  Letters
of the first 128 code points have no variant among themselves. -/
def sameLetter (first second : Char) : Bool :=
  let one := lowerLetter first
  let other := lowerLetter second
  one == other ||
    (!(first.toNat < 128 && second.toNat < 128) &&
      ((letterVariants.lookup one.toNat).getD []).contains other.toNat)

end Playhouse.Text
