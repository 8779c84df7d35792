/-
Module: Playhouse.Token
Purpose: Tokens, the smallest meaningful pieces of a play.
Main exports: Lexeme, TokenKind, TokenKind.transcript, Token, Token.repr
-/
import Playhouse.Name
import Playhouse.Operation

namespace Playhouse

/-- The pieces of sentences. -/
inductive Lexeme where
  | compare (comparison : Comparison)
  | be
  | firstPerson
  | firstPersonPossessive
  | firstPersonReflexive
  | secondPerson
  | secondPersonPossessive
  | secondPersonReflexive
  | thirdPersonPossessive
  | character (name : String)
  | conjunction
  | punctuation
  | binary (operation : BinaryOperation)
  | unary (operation : UnaryOperation)
  | other (word : String)
deriving Repr, Inhabited, DecidableEq

/-- What a token says, without its place in the source. -/
inductive TokenKind where
  | act (number description : String)
  | scene (number description : String)
  | enter (names : NameSet)
  /-- Those who leave; the empty set stands for everybody. -/
  | exit (names : NameSet)
  | speaking (name : String)
  | printNumber
  | printCharacter
  | scanNumber
  | scanCharacter
  | jump (target : String)
  /-- A jump that depends on the answer to a question: `affirmed` says that the
  answer has to be yes. -/
  | conditionalJump (affirmed : Bool) (target : String)
  | pushStack
  | popStack
  | lexeme (lexeme : Lexeme)
  /-- A character that belongs to no other token. -/
  | other (character : Char)
deriving Repr, Inhabited, DecidableEq

/-- A token and the line on which it starts. -/
structure Token where
  kind : TokenKind
  line : Nat
deriving Repr, Inhabited, DecidableEq

/-! ### Transcripts -/

/-- The name of a lexeme's class. -/
def Lexeme.label : Lexeme → String
  | compare _ => "COMPARE"
  | be => "BE"
  | firstPerson => "FIRST_PERSON"
  | firstPersonPossessive => "FIRST_PERSON_POSSESSIVE"
  | firstPersonReflexive => "FIRST_PERSON_REFLEXIVE"
  | secondPerson => "SECOND_PERSON"
  | secondPersonPossessive => "SECOND_PERSON_POSSESSIVE"
  | secondPersonReflexive => "SECOND_PERSON_REFLEXIVE"
  | thirdPersonPossessive => "THIRD_PERSON_POSSESSIVE"
  | character _ => "CHARACTER"
  | conjunction => "CONJUNCTION"
  | punctuation => "PUNCTUATION"
  | binary _ => "BINARY_OPERATION"
  | unary _ => "UNARY_OPERATION"
  | other _ => "OTHER"

/-- What a lexeme carries beside its class. -/
def Lexeme.content? : Lexeme → Option String
  | compare comparison => some comparison.symbol
  | character name => some name
  | binary operation => some operation.symbol
  | unary operation => some operation.symbol
  | other word => some word
  | _ => none

def Lexeme.transcript (lexeme : Lexeme) : String :=
  match lexeme.content? with
  | some content => "Lexeme(" ++ lexeme.label ++ ", " ++ content ++ ")"
  | none => "Lexeme(" ++ lexeme.label ++ ")"

namespace TokenKind

/-- The name of a token's kind. -/
def label : TokenKind → String
  | act _ _ => "ACT"
  | scene _ _ => "SCENE"
  | enter _ => "ENTER"
  | exit _ => "EXIT"
  | speaking _ => "SPEAKING"
  | printNumber => "PRINT_NUMBER"
  | printCharacter => "PRINT_CHARACTER"
  | scanNumber => "SCAN_NUMBER"
  | scanCharacter => "SCAN_CHARACTER"
  | jump _ => "JUMP"
  | conditionalJump _ _ => "CONDITIONAL_JUMP"
  | pushStack => "PUSH_STACK"
  | popStack => "POP_STACK"
  | lexeme _ => "LEXEME"
  | other _ => "OTHER"

/-- The answer on which a conditional jump depends. -/
def polarity (affirmed : Bool) : String :=
  if affirmed then "so" else "not"

/-- One line of a token transcript. -/
def transcript (kind : TokenKind) : String :=
  match kind with
  | act number description | scene number description =>
      kind.label ++ "(" ++ number ++ ", " ++ description ++ ")"
  | enter names | exit names => kind.label ++ "(" ++ ", ".intercalate names ++ ")"
  | speaking name => kind.label ++ "(" ++ name ++ ")"
  | jump target => kind.label ++ "(" ++ target ++ ")"
  | conditionalJump affirmed target =>
      kind.label ++ "(" ++ polarity affirmed ++ ", " ++ target ++ ")"
  | lexeme content => content.transcript
  | other character => kind.label ++ "(" ++ character.toString ++ ")"
  | _ => kind.label

end TokenKind

/-- A token with its line, for inspection. -/
def Token.repr (token : Token) : String :=
  "Token(" ++ token.kind.transcript ++ ", L" ++ toString token.line ++ ")"

end Playhouse
