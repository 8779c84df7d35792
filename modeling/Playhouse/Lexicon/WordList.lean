/-
Module: Playhouse.Lexicon.WordList
Purpose: The surface words of one class, and the pattern that finds them.
Main exports:
  WordList, WordList.ofText, WordList.contains, WordList.longestFirst,
  WordList.pattern, WordList.expression
-/
import Playhouse.Pattern.Phrase

namespace Playhouse

open Text

/-- A string in lower case. -/
def foldCase (text : String) : String :=
  String.ofList (lower text.toList)

/-- The words of one class in the order of their list, together with the same
words in lower case. -/
structure WordList where
  words : List String
  folded : List String
deriving Repr, Inhabited, DecidableEq

namespace WordList

/-- A word list from its words. -/
def ofWords (words : List String) : WordList :=
  ⟨words, words.map foldCase⟩

/-- A word list from the text of its file: one word a line, blank lines and
blanks around a word left out. -/
def ofText (text : String) : WordList :=
  let lines := linesOf (unifyNewlines text.toList)
  ofWords (((lines.map strip).filter fun word => !word.isEmpty).map String.ofList)

/-! ### Membership -/

/-- A text without a given ending, if it has that ending. -/
def dropEnding? (ending text : List Char) : Option (List Char) :=
  if ending.isSuffixOf text then some (text.take (text.length - ending.length)) else none

/-- Whether a word belongs to the list.  Case is ignored, and so is a possessive
ending. -/
def contains (list : WordList) (word : String) : Bool :=
  let folded := lower word.toList
  let listed (text : List Char) : Bool := list.folded.contains (String.ofList text)
  listed folded ||
    (dropEnding? ['\x27', 's'] folded).any listed ||
    (dropEnding? ['\x27'] folded).any listed

/-! ### Recognition in running text -/

/-- Put a word in front of the first word that is not longer than it. -/
def insertByLength (word : String) : List String → List String
  | [] => [word]
  | other :: rest =>
      if other.length ≤ word.length then word :: other :: rest
      else other :: insertByLength word rest

/-- The words ordered by length, longest first; words of one length keep their
order. -/
def longestFirst (words : List String) : List String :=
  words.foldr insertByLength []

/-- The pattern that finds a word of the list between two word edges.  Longer
words are tried first, so that a word never hides a longer one. -/
def pattern (caseless : Bool) (list : WordList) : Pattern Empty :=
  Pattern.wholeWords caseless (longestFirst list.words)

/-! ### The pattern in writing -/

/-- Characters that a written pattern marks with a backslash. -/
def isEscaped (c : Char) : Bool :=
  (9 ≤ c.toNat && c.toNat ≤ 13) || c.toNat == 32 || "#$&()*+-.?[\\]^\x7b|\x7d~".toList.contains c

/-- One character of a word in a written pattern; a space stands for white space
of any length. -/
def writtenCharacter (c : Char) : List Char :=
  if c == ' ' then ['\\', 's', '+'] else if isEscaped c then ['\\', c] else [c]

/-- The written form of the pattern, with or without its word edges. -/
def expression (list : WordList) (edges : Bool) : String :=
  let written := (longestFirst list.words).map fun word => word.toList.flatMap writtenCharacter
  let body := '(' :: (['|'].intercalate written ++ [')'])
  String.ofList (if edges then ['\\', 'b'] ++ body ++ ['\\', 'b'] else body)

end WordList

end Playhouse
