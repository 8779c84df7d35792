/-
Module: Playhouse.Token.Rule
Purpose: The ordered table of rules by which source text is cut into tokens.
Main exports: Rule, Rule.table
-/
import Playhouse.Category
import Playhouse.Pattern.Phrase
import Playhouse.Token

namespace Playhouse

open Text

/-- One rule: a pattern with places for word classes, and the token made from
what the pattern finds.  A rule without a token skips what it finds. -/
structure Rule where
  /-- Whether the words of a class are found without regard to case. -/
  caseless : Bool
  pattern : Pattern Category
  build : Found → Option TokenKind

namespace Rule

open Pattern

/-! ### Tokens from what was found -/

/-- The kept stretch with a given number, or nothing. -/
def nthGroup (index : Nat) (found : Found) : List Char :=
  found.groups.getD index []

/-- Skip what was found. -/
def skip (_ : Found) : Option TokenKind := none

/-- A token that does not depend on what was found. -/
def always (kind : TokenKind) (_ : Found) : Option TokenKind := some kind

/-- A lexeme that does not depend on what was found. -/
def word (lexeme : Lexeme) (_ : Found) : Option TokenKind := some (.lexeme lexeme)

/-- The names kept by a stage direction; an empty stretch names nobody. -/
def keptNames (found : Found) : NameSet :=
  NameSet.ofList ((found.groups.filter fun kept => !kept.isEmpty).map normalizeName)

/-- Whether a text holds another one somewhere. -/
def mentions (part : List Char) : List Char → Bool
  | [] => part.isEmpty
  | c :: rest => part.isPrefixOf (c :: rest) || mentions part rest

/-- The binary operation that a phrase names, by its distinctive word. -/
def binaryOf (phrase : List Char) : BinaryOperation :=
  let has (word : String) : Bool := mentions word.toList (lower phrase)
  if has "product" then .multiply
  else if has "sum" then .add
  else if has "difference" then .subtract
  else if has "remainder" then .modulo
  else .divide

/-- The unary operation that a phrase names, by its distinctive word. -/
def unaryOf (phrase : List Char) : UnaryOperation :=
  let has (word : String) : Bool := mentions word.toList (lower phrase)
  if has "root" then .squareRoot
  else if has "twice" then .twice
  else if has "cube" then .cube
  else .square

/-! ### Patterns of the language -/

/-- A heading: its keyword, a numeral, a colon and the rest of the line. -/
def heading (keyword : String) : Pattern Category :=
  literal false (keyword ++ " ") ++ group (roman false) ++ literal false ": " ++
    group (many (· != '\n') 0 none .eager)

/-- A name in a stage direction: letters and white space, as few as will do. -/
def directionName : Pattern Category :=
  group (many (fun c => isNameLetter c || isBlank c) 1 none .reluctant)

/-- A stage direction about one character. -/
def directionForOne (keyword : Pattern Category) : Pattern Category :=
  literal false "[" ++ blanks ++ keyword ++ someBlanks ++ directionName ++ blanks ++
    literal false "]"

/-- A stage direction about two characters. -/
def directionForTwo (keyword : Pattern Category) : Pattern Category :=
  literal false "[" ++ blanks ++ keyword ++ someBlanks ++ directionName ++ someBlanks ++
    literal false "and" ++ someBlanks ++ directionName ++ blanks ++ literal false "]"

/-- A character's name in front of a speech. -/
def speechName : Pattern Category :=
  group
    (one isNameLetter ++
      many (fun c => isNameLetter c || c == ' ' || c == '\t') 0 none .reluctant)

/-- A sentence of the form "verb, possessive, object". -/
def command (verb object : String) : Pattern Category :=
  phrase true verb ++ someBlanks ++ slot .secondPersonPossessive ++ someBlanks ++
    phrase true object ++ blanks ++ mark

/-- The words that send the play to another scene. -/
def jumpPhrase : Pattern Category :=
  choice (["let us", "we must", "we shall"].map (phrase true)) ++ someBlanks ++
    choice (["proceed", "return"].map (phrase true)) ++ someBlanks ++
    phrase true "to scene" ++ someBlanks ++ group (roman true) ++ blanks ++ mark

/-- A conditional jump after the given words. -/
def conditionalPhrase (condition : String) : Pattern Category :=
  phrase true condition ++ blanks ++ jumpPhrase

/-- A comparison around a free adjective. -/
def comparisonAround (opening closing : String) : Pattern Category :=
  phrase true opening ++ someBlanks ++ freeWord ++ someBlanks ++ phrase true closing ++ edge

/-- A comparison with a listed comparative. -/
def comparisonWith (category : Category) : Pattern Category :=
  slot category ++ someBlanks ++ phrase true "than" ++ edge

/-- A rule that finds the words of a class. -/
def ofClass (category : Category) (build : Found → Option TokenKind) : Rule :=
  ⟨true, slot category, build⟩

/-- A rule whose pattern leaves no place for a word class. -/
def plain (pattern : Pattern Category) (build : Found → Option TokenKind) : Rule :=
  ⟨false, pattern, build⟩

/-- A rule around a word class. -/
def around (pattern : Pattern Category) (build : Found → Option TokenKind) : Rule :=
  ⟨true, pattern, build⟩

/-! ### The table -/

/-- White space, headings, stage directions and speakers. -/
def structural : List Rule :=
  [plain someBlanks skip,
    plain (heading "Act") fun found =>
      some (.act (String.ofList (nthGroup 0 found)) (String.ofList (strip (nthGroup 1 found)))),
    plain (heading "Scene") fun found =>
      some (.scene (String.ofList (nthGroup 0 found)) (String.ofList (strip (nthGroup 1 found)))),
    plain (directionForTwo (literal false "Enter")) fun found => some (.enter (keptNames found)),
    plain (directionForOne (literal false "Enter")) fun found => some (.enter (keptNames found)),
    plain (directionForTwo (literal false "Exeunt")) fun found => some (.exit (keptNames found)),
    plain (directionForOne (choice [literal false "Exit", literal false "Exeunt"])) fun found =>
      some (.exit (keptNames found)),
    plain (literal false "[" ++ blanks ++ literal false "Exeunt" ++ blanks ++ literal false "]")
      fun found => some (.exit (keptNames found)),
    plain (speechName ++ blanks ++ literal false ":") fun found =>
      some (.speaking (normalizeName (nthGroup 0 found)))]

/-- Commands of one fixed sentence each. -/
def commands : List Rule :=
  [around (command "Listen to" "heart") (always .scanNumber),
    around (command "Open" "mind") (always .scanCharacter),
    around (command "Speak" "mind") (always .printCharacter),
    around (command "Open" "heart") (always .printNumber)]

/-- Phrases for arithmetic. -/
def operations : List Rule :=
  [plain
      (choice
        (["the product of", "the sum of", "the remainder of the quotient between",
          "the quotient between", "the difference between"].map (phrase true)))
      fun found => some (.lexeme (.binary (binaryOf found.text))),
    plain
      (choice
        [phrase true "the square of", phrase true "the cube of", phrase true "twice" ++ edge,
          phrase true "the square root of"])
      fun found => some (.lexeme (.unary (unaryOf found.text)))]

/-- Jumps, and the conjunction that joins two operands. -/
def jumps : List Rule :=
  [plain (conditionalPhrase "If so,") fun found =>
      some (.conditionalJump true (String.ofList (nthGroup 0 found))),
    plain (conditionalPhrase "If not,") fun found =>
      some (.conditionalJump false (String.ofList (nthGroup 0 found))),
    plain (literal false "and" ++ edge) (word .conjunction),
    plain jumpPhrase fun found => some (.jump (String.ofList (nthGroup 0 found)))]

/-- Phrases for comparisons. -/
def comparisons : List Rule :=
  [plain (comparisonAround "as" "as") (word (.compare .equals)),
    around (comparisonWith .positiveComparative) (word (.compare .greaterThan)),
    plain (comparisonAround "more" "than") (word (.compare .greaterThan)),
    around (comparisonWith .negativeComparative) (word (.compare .lessThan)),
    plain (comparisonAround "less" "than") (word (.compare .lessThan))]

/-- Putting away and taking back. -/
def memories : List Rule :=
  [plain (phrase true "Remember" ++ edge) (always .pushStack),
    plain (phrase true "Recall" ++ edge ++ many (fun c => !isEndMark c) 0 none .eager ++ mark)
      (always .popStack)]

/-- The word classes. -/
def classes : List Rule :=
  [ofClass .character fun found => some (.lexeme (.character (normalizeName found.text))),
    ofClass .secondPerson (word .secondPerson),
    ofClass .secondPersonReflexive (word .secondPersonReflexive),
    ofClass .firstPerson (word .firstPerson),
    ofClass .firstPersonReflexive (word .firstPersonReflexive),
    ofClass .secondPersonPossessive (word .secondPersonPossessive),
    ofClass .firstPersonPossessive (word .firstPersonPossessive),
    ofClass .thirdPersonPossessive (word .thirdPersonPossessive),
    ofClass .be (word .be),
    ofClass .article skip]

/-- What remains: free words and the marks that end a sentence. -/
def remainders : List Rule :=
  [plain freeWord fun found => some (.lexeme (.other (String.ofList found.text))),
    plain mark (word .punctuation)]

/-- All rules in the order in which they are tried; the first that finds
something wins. -/
def table : List Rule :=
  structural ++ commands ++ operations ++ jumps ++ comparisons ++ memories ++ classes ++ remainders

end Rule

end Playhouse
