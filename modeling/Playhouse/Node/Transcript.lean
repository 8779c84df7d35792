/-
Module: Playhouse.Node.Transcript
Purpose: Nodes written out in full, one line for each statement.
Main exports: Expr.transcript, Question.transcript, Statement.transcript, Action.label
-/
import Playhouse.Node
import Playhouse.Text.Integer

namespace Playhouse

open Text

/-!
A transcript names every part of a node.  It fails only for a number with more
digits than may be written.
-/

/-- A name in a transcript; nobody has a name of their own. -/
def writtenName : Option String → List Char
  | some name => name.toList
  | none => "None".toList

/-- The transcript of a reference to a character. -/
def writtenReference (name : Option String) : List Char :=
  "Variable(name: ".toList ++ writtenName name ++ [')']

/-- The transcript of an expression. -/
def Expr.transcript : Expr → Except DigitLimit (List Char)
  | character name _ => .ok (writtenReference name)
  | number value _ => do
      let digits ← writeInteger value
      pure ("Value(".toList ++ digits ++ [')'])
  | unary operation operand _ => do
      let inner ← operand.transcript
      pure ("UnaryOperation(".toList ++ operation.symbol.toList ++ ", expr: ".toList ++ inner ++
        [')'])
  | binary operation lhs rhs _ => do
      let left ← lhs.transcript
      let right ← rhs.transcript
      pure ("BinaryOperation(".toList ++ operation.symbol.toList ++ ", lhs: ".toList ++ left ++
        ", rhs: ".toList ++ right ++ [')'])
  | foreign thing _ => .ok thing.transcript.toList

/-- The transcript of a question. -/
def Question.transcript (question : Question) : Except DigitLimit (List Char) := do
  let left ← question.lhs.transcript
  let right ← question.rhs.transcript
  pure ("Compare(".toList ++ question.predicate.symbol.toList ++ ", lhs: ".toList ++ left ++
    ", rhs: ".toList ++ right ++ [')'])

/-- The transcript of a jump. -/
def writtenJump (tag : String) : List Char :=
  "Jump(".toList ++ tag.toList ++ [')']

/-- The transcript of an action that concerns one name only. -/
def writtenDeed (deed name : String) : List Char :=
  deed.toList ++ '(' :: (name.toList ++ [')'])

/-- The transcript of an action. -/
def Action.transcript : Action → Except DigitLimit (List Char)
  | scene tag => .ok ("Tag(".toList ++ tag.toList ++ [')'])
  | declare name => .ok ("Character(name: ".toList ++ name.toList ++ [')'])
  | scanNumber name => .ok (writtenDeed "ScanNumber" name)
  | scanCharacter name => .ok (writtenDeed "ScanCharacter" name)
  | printCharacter name => .ok (writtenDeed "PrintCharacter" name)
  | printNumber name => .ok (writtenDeed "PrintNumber" name)
  | pop name => .ok (writtenDeed "PopStack" name)
  | push name value => do
      let inner ← value.transcript
      pure ("PushStack(".toList ++ name.toList ++ ", expr: ".toList ++ inner ++ [')'])
  | assign target _ value => do
      let inner ← value.transcript
      pure ("Assign(variable: ".toList ++ writtenReference target ++ ", expr: ".toList ++ inner ++
        [')'])
  | jump tag => .ok (writtenJump tag)
  | jumpIf question tag _ => do
      let test ← question.transcript
      pure ("ConditionalJump(test: ".toList ++ test ++ ", ".toList ++ writtenJump tag ++ [')'])
  | ask question => question.transcript
  | remark value => value.transcript

/-- The transcript of a statement. -/
def Statement.transcript (statement : Statement) : Except DigitLimit String :=
  statement.action.transcript.map String.ofList

/-! ### Kinds of nodes -/

/-- The name of an expression's kind. -/
def Expr.label : Expr → String
  | character _ _ => "Variable"
  | number _ _ => "Value"
  | unary _ _ _ => "UnaryOperation"
  | binary _ _ _ _ => "BinaryOperation"
  | foreign _ _ => "Foreign"

/-- The name of a statement's kind. -/
def Action.label : Action → String
  | scene _ => "GotoTag"
  | declare _ => "CharacterDeclaration"
  | scanNumber _ => "ScanNumber"
  | scanCharacter _ => "ScanCharacter"
  | printCharacter _ => "PrintCharacter"
  | printNumber _ => "PrintNumber"
  | push _ _ => "PushStack"
  | pop _ => "PopStack"
  | assign _ _ _ => "Assignment"
  | jump _ => "Jump"
  | jumpIf _ _ _ => "ConditionalJump"
  | ask _ => "Compare"
  | remark value => value.label

end Playhouse
