/-
Module: Playhouse.Pattern.Phrase
Purpose: The patterns from which the rules of the language are put together.
Main exports:
  Pattern.literal, Pattern.phrase, Pattern.blanks, Pattern.someBlanks,
  Pattern.mark, Pattern.roman
-/
import Playhouse.Pattern
import Playhouse.Text.Blank
import Playhouse.Text.LetterCase

namespace Playhouse.Pattern

open Text

variable {κ : Type}

/-! ### Characters -/

/-- Characters that count as `letter`, with or without regard to case. -/
def letterKind (caseless : Bool) (letter : Char) : Char → Bool :=
  if caseless then sameLetter letter else (· == letter)

/-- Characters that count as one of `letters`. -/
def anyLetterKind (caseless : Bool) (letters : List Char) (c : Char) : Bool :=
  letters.any fun letter => letterKind caseless letter c

/-- The plain letters of which names in stage directions consist. -/
def isNameLetter (c : Char) : Bool :=
  c.isAlpha

/-- Characters of a free word: word characters, apostrophe, slash and hyphen. -/
def isFreeCharacter (c : Char) : Bool :=
  isWordCharacter c || c == '\x27' || c == '/' || c == '-'

/-- The marks that end a sentence. -/
def isEndMark (c : Char) : Bool :=
  c == '.' || c == '!' || c == '?'

/-! ### Stretches -/

/-- White space that may be missing. -/
def blanks : Pattern κ := many isBlank 0 none .eager

/-- White space that must be there. -/
def someBlanks : Pattern κ := many isBlank 1 none .eager

/-- One mark that ends a sentence. -/
def mark : Pattern κ := one isEndMark

/-- A free word. -/
def freeWord : Pattern κ := many isFreeCharacter 1 none .eager

/-- A text letter by letter. -/
def literal (caseless : Bool) (text : String) : Pattern κ :=
  text.toList.foldr (fun c rest => seq (one (letterKind caseless c)) rest) nothing

/-- A text in which every space stands for white space of any length. -/
def phrase (caseless : Bool) (text : String) : Pattern κ :=
  text.toList.foldr
    (fun c rest => seq (if c == ' ' then someBlanks else one (letterKind caseless c)) rest)
    nothing

/-- The first of several patterns that fits; with none given, the empty stretch. -/
def choice : List (Pattern κ) → Pattern κ
  | [] => nothing
  | [only] => only
  | first :: others => alt first (choice others)

/-- Any of some phrases, earlier ones first, standing between two word edges. -/
def wholeWords (caseless : Bool) (words : List String) : Pattern κ :=
  edge ++ group (choice (words.map (phrase caseless))) ++ edge

/-! ### Roman numerals -/

/-- One decimal place of a Roman numeral, written with the letters for one, five
and ten units of the place. -/
def romanPlace (caseless : Bool) (unit five ten : Char) : Pattern κ :=
  let letter (c : Char) : Pattern κ := one (letterKind caseless c)
  choice
    [letter unit ++ letter ten,
      letter unit ++ letter five,
      many (letterKind caseless five) 0 (some 1) .eager ++
        many (letterKind caseless unit) 0 (some 3) .eager]

/-- A Roman numeral from 1 to 4999.  All four places may be empty, so a letter
of the notation is asked for in front. -/
def roman (caseless : Bool) : Pattern κ :=
  ahead (anyLetterKind caseless ['M', 'D', 'C', 'L', 'X', 'V', 'I']) ++
    many (letterKind caseless 'M') 0 (some 4) .eager ++
    romanPlace caseless 'C' 'D' 'M' ++
    romanPlace caseless 'X' 'L' 'C' ++
    romanPlace caseless 'I' 'V' 'X'

end Playhouse.Pattern
