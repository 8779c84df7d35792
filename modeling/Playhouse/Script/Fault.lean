/-
Module: Playhouse.Script.Fault
Purpose: What may be wrong with a play as a text.
Main exports: ParseCause, ParseCause.kind, ParseCause.message, ParseFault, ReadFault
-/
import Playhouse.Lexicon.Shelf
import Playhouse.Script.State

namespace Playhouse

/-- Why a play cannot be understood. -/
inductive ParseCause where
  /-- The table of parts lets a token open several parts. -/
  | ambiguous (token : TokenKind) (choices : List State) (state : State)
  | unexpectedAfter (token : TokenKind) (state : State)
  | titleUnfinished
  | declarationExpected (token : TokenKind)
  | declarationUnfinished (name : String)
  | actExpected (token : TokenKind)
  | sceneExpected (token : TokenKind)
  | directionExpected (token : TokenKind)
  | speakerExpected (token : TokenKind)
  | unexpectedInDialogue (token : TokenKind)
  | unexpectedInQuestion (token : TokenKind)
  | questionUnfinished
  | unexpectedInSentence (token : TokenKind)
  | sentenceUnfinished
  | strangersEnter (names : NameSet)
  | absentExit (names : NameSet)
  | notTwoOnStage (present : Nat)
  | speakerAbsent (name : String)
  | questionPending
  | questionMissing
  | undeclared (name : String)
  | listenerMissing
  | equalityExpected
  | leftSideMissing
  | secondComparison
  | comparisonMissing
  | rightSideMissing
  | expressionExpected
  | unexpectedInExpression (token : TokenKind)
  | conjunctionMissing
deriving Repr, Inhabited, DecidableEq

namespace ParseCause

/-- The family to which a cause belongs: the table of parts itself, the order of
tokens, the bookkeeping of the stage, or the shape of an expression. -/
def kind : ParseCause → String
  | ambiguous _ _ _ => "AmbiguousTransition"
  | unexpectedAfter _ _ | titleUnfinished | declarationExpected _ | declarationUnfinished _
  | actExpected _ | sceneExpected _ | directionExpected _ | speakerExpected _
  | unexpectedInDialogue _ | unexpectedInQuestion _ | questionUnfinished
  | unexpectedInSentence _ | sentenceUnfinished => "GrammarViolation"
  | strangersEnter _ | absentExit _ | notTwoOnStage _ | speakerAbsent _ | questionPending
  | questionMissing | undeclared _ | listenerMissing => "StructuralViolation"
  | equalityExpected | leftSideMissing | secondComparison | comparisonMissing
  | rightSideMissing | expressionExpected | unexpectedInExpression _
  | conjunctionMissing => "ExpressionViolation"

/-- The wording of a cause. -/
def message : ParseCause → String
  | ambiguous token choices state =>
      token.transcript ++ " may start any of \x7b" ++
        ", ".intercalate (NameSet.ofList (choices.map State.label)) ++ "\x7d after " ++ state.label
  | unexpectedAfter token state => "Unexpected " ++ token.transcript ++ " after " ++ state.name
  | titleUnfinished => "Expected punctuation after the title"
  | declarationExpected token => "Expected a character declaration, got " ++ token.transcript
  | declarationUnfinished name => "Expected punctuation after the declaration of " ++ name
  | actExpected token => "Expected an act, got " ++ token.transcript
  | sceneExpected token => "Expected a scene, got " ++ token.transcript
  | directionExpected token => "Expected a stage direction, got " ++ token.transcript
  | speakerExpected token => "Expected a speaking character, got " ++ token.transcript
  | unexpectedInDialogue token => "Unexpected " ++ token.transcript ++ " in dialogue"
  | unexpectedInQuestion token => "Unexpected " ++ token.transcript ++ " in question"
  | questionUnfinished => "Expected punctuation after the question"
  | unexpectedInSentence token => "Expected punctuation before " ++ token.transcript
  | sentenceUnfinished => "Expected punctuation at end of sentence"
  | strangersEnter names => "Undeclared character(s) cannot enter: " ++ ", ".intercalate names
  | absentExit names => "Character(s) not on stage cannot exit: " ++ ", ".intercalate names
  | notTwoOnStage present =>
      "Dialogue requires exactly two characters on stage, found " ++ toString present
  | speakerAbsent name => name ++ " is not on stage"
  | questionPending => "A question is already awaiting its conditional jump"
  | questionMissing => "Conditional jump without a preceding question"
  | undeclared name => name ++ " was never declared"
  | listenerMissing => "Second-person reference needs exactly one listener on stage"
  | equalityExpected => "Assignment expects an equality ('as ... as')"
  | leftSideMissing => "Missing left-hand side of the comparison"
  | secondComparison => "A question holds a single comparison"
  | comparisonMissing => "Missing comparison in question"
  | rightSideMissing => "Missing right-hand side of the comparison"
  | expressionExpected => "Expected an expression"
  | unexpectedInExpression token => "Unexpected " ++ token.transcript ++ " in expression"
  | conjunctionMissing => "Binary operation is missing its 'and'"

end ParseCause

/-- A cause and the line on which it shows. -/
structure ParseFault where
  cause : ParseCause
  line : Nat
deriving Repr, Inhabited, DecidableEq

/-- Why a source cannot be read: a word list is missing, or the play is wrong. -/
inductive ReadFault where
  | lexicon (fault : LexiconFault)
  | parse (fault : ParseFault)
deriving Repr, Inhabited, DecidableEq

end Playhouse
