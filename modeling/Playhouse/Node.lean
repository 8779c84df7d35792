/-
Module: Playhouse.Node
Purpose: Statements and expressions, the sense of a play.
Main exports: Foreign, Expr, Foreign.bare, Foreign.ofTranscript, Question, Action, Statement,
  Expr.unlined, Statement.unlined
-/
import Playhouse.Operation

namespace Playhouse

/-!
Every node knows the line on which it was written.  Lines serve messages only:
two plays mean the same when their statements agree after `unlined`.
-/

/-- Something that is no expression: what it is, whatever lines it stands on, and how it
is written, in a transcript and in full.  In full every node shows its line. -/
structure Foreign where
  identity : String
  transcript : String
  full : String
deriving Repr, Inhabited, DecidableEq

/-- Expressions. -/
inductive Expr where
  /-- The number of a character.  Without a name it refers to nobody, which
  happens to a first person whom nobody speaks. -/
  | character (name : Option String) (line : Nat)
  | number (value : Int) (line : Nat)
  | unary (operation : UnaryOperation) (operand : Expr) (line : Nat)
  | binary (operation : BinaryOperation) (lhs rhs : Expr) (line : Nat)
  /-- Something that stands in the place of an expression but has no value. -/
  | foreign (thing : Foreign) (line : Nat)
deriving Repr, Inhabited, DecidableEq

/-- An expression of no kind at all, which shows nothing but its line. -/
def Foreign.bare (line : Nat) : Foreign :=
  let full := "ExpressionNode(line=" ++ toString line ++ ")"
  ⟨"ExpressionNode", full, full⟩

/-- A node of another sort, which is known by its transcript. -/
def Foreign.ofTranscript (transcript full : String) : Foreign :=
  ⟨transcript, transcript, full⟩

/-- A question: a test of two numbers. -/
structure Question where
  lhs : Expr
  rhs : Expr
  predicate : Predicate
  line : Nat
deriving Repr, Inhabited, DecidableEq

/-- What a statement does. -/
inductive Action where
  /-- A scene begins, to which jumps may lead. -/
  | scene (tag : String)
  | declare (name : String)
  | scanNumber (name : String)
  | scanCharacter (name : String)
  | printCharacter (name : String)
  | printNumber (name : String)
  /-- Put a number on a character's stack. -/
  | push (name : String) (value : Expr)
  /-- Take a character's number from its stack. -/
  | pop (name : String)
  | assign (target : Option String) (targetLine : Nat) (value : Expr)
  | jump (tag : String)
  /-- Jump if the answer to the question is yes. -/
  | jumpIf (question : Question) (tag : String) (jumpLine : Nat)
  /-- A question with no consequence. -/
  | ask (question : Question)
  /-- An expression with no consequence. -/
  | remark (value : Expr)
deriving Repr, Inhabited, DecidableEq

/-- A statement and the line on which it starts. -/
structure Statement where
  action : Action
  line : Nat
deriving Repr, Inhabited, DecidableEq

/-- The line of an expression. -/
def Expr.line : Expr → Nat
  | character _ line | number _ line | unary _ _ line | binary _ _ _ line | foreign _ line => line

/-- The question that is answered yes exactly when this one is answered no. -/
def Question.negated (question : Question) : Question :=
  { question with predicate := question.predicate.negated }

/-! ### Forgetting lines -/

/-- A thing without what its lines say in its writings. -/
def Foreign.unlined (thing : Foreign) : Foreign :=
  ⟨thing.identity, "", ""⟩

/-- An expression with all its lines forgotten. -/
def Expr.unlined : Expr → Expr
  | character name _ => character name 0
  | number value _ => number value 0
  | unary operation operand _ => unary operation operand.unlined 0
  | binary operation lhs rhs _ => binary operation lhs.unlined rhs.unlined 0
  | foreign thing _ => foreign thing.unlined 0

/-- A question with all its lines forgotten. -/
def Question.unlined (question : Question) : Question :=
  ⟨question.lhs.unlined, question.rhs.unlined, question.predicate, 0⟩

/-- An action with all its lines forgotten. -/
def Action.unlined : Action → Action
  | push name value => push name value.unlined
  | assign target _ value => assign target 0 value.unlined
  | jumpIf question tag _ => jumpIf question.unlined tag 0
  | ask question => ask question.unlined
  | remark value => remark value.unlined
  | action => action

/-- A statement with all its lines forgotten. -/
def Statement.unlined (statement : Statement) : Statement :=
  ⟨statement.action.unlined, 0⟩

end Playhouse
