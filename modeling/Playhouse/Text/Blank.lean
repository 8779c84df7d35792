/-
Module: Playhouse.Text.Blank
Purpose: White space: which characters are blank, trimming, and cutting text
  into words and lines.
Main exports: isBlank, isLineBreak, strip, wordsOf, joinedWords, unifyNewlines, linesOf
-/

namespace Playhouse.Text

/-! ### Blank characters -/

/-- White space.  Beside the usual blanks it holds the four separator controls,
the next-line control and every space separator, narrow or wide. -/
def isBlank (c : Char) : Bool :=
  let point := c.toNat
  (9 ≤ point && point ≤ 13) || (28 ≤ point && point ≤ 32) ||
    (128 ≤ point &&
      (point == 0x85 || point == 0xa0 || point == 0x1680 ||
        (0x2000 ≤ point && point ≤ 0x200a) || point == 0x2028 || point == 0x2029 ||
        point == 0x202f || point == 0x205f || point == 0x3000))

/-- A text without the blanks at its two ends. -/
def strip (text : List Char) : List Char :=
  ((text.dropWhile isBlank).reverse.dropWhile isBlank).reverse

/-! ### Words -/

/-- Cut a text at its blanks.  `current` is the word under way, last character
first; runs of blanks count as one cut and give no empty word. -/
def wordsFrom (current : List Char) : List Char → List (List Char)
  | [] => if current.isEmpty then [] else [current.reverse]
  | c :: rest =>
      if isBlank c then
        if current.isEmpty then wordsFrom [] rest
        else current.reverse :: wordsFrom [] rest
      else wordsFrom (c :: current) rest

/-- The words of a text: its longest stretches without a blank. -/
def wordsOf (text : List Char) : List (List Char) :=
  wordsFrom [] text

/-- The words of a text with one plain space between neighbours. -/
def joinedWords (text : List Char) : List Char :=
  [' '].intercalate (wordsOf text)

/-! ### Lines -/

/-- Characters that end a line of a word list. -/
def isLineBreak (c : Char) : Bool :=
  let point := c.toNat
  (10 ≤ point && point ≤ 13) || (28 ≤ point && point ≤ 30) ||
    point == 0x85 || point == 0x2028 || point == 0x2029

/-- Write every line end of a file, whether carriage return, line feed or the
two together, as one line feed. -/
def unifyNewlines : List Char → List Char
  | [] => []
  | '\r' :: '\n' :: rest => '\n' :: unifyNewlines rest
  | c :: rest => (if c == '\r' then '\n' else c) :: unifyNewlines rest

/-- Cut a text at its line breaks.  `current` is the line under way, last
character first. -/
def linesFrom (current : List Char) : List Char → List (List Char)
  | [] => if current.isEmpty then [] else [current.reverse]
  | c :: rest =>
      if isLineBreak c then current.reverse :: linesFrom [] rest
      else linesFrom (c :: current) rest

/-- The lines of a text whose newlines have been unified. -/
def linesOf (text : List Char) : List (List Char) :=
  linesFrom [] text

end Playhouse.Text
