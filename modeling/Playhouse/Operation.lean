/-
Module: Playhouse.Operation
Purpose: Comparisons and arithmetic operations, with their symbols.
Main exports: Comparison, BinaryOperation, UnaryOperation, Predicate, Predicate.negated,
  Predicate.holds, Comparison.predicate
-/

namespace Playhouse

/-- The comparisons that a question may ask for. -/
inductive Comparison where
  | lessThan
  | equals
  | greaterThan
deriving Repr, Inhabited, DecidableEq

def Comparison.symbol : Comparison → String
  | lessThan => "<"
  | equals => "="
  | greaterThan => ">"

/-- Operations on two numbers. -/
inductive BinaryOperation where
  | add
  | subtract
  | multiply
  | divide
  | modulo
deriving Repr, Inhabited, DecidableEq

def BinaryOperation.symbol : BinaryOperation → String
  | add => "+"
  | subtract => "-"
  | multiply => "*"
  | divide => "/"
  | modulo => "%"

def BinaryOperation.all : List BinaryOperation :=
  [.add, .subtract, .multiply, .divide, .modulo]

/-- Operations on one number. -/
inductive UnaryOperation where
  | twice
  | square
  | cube
  | squareRoot
deriving Repr, Inhabited, DecidableEq

def UnaryOperation.symbol : UnaryOperation → String
  | twice => "2x"
  | square => "^2"
  | cube => "^3"
  | squareRoot => "sqrt"

/-- The name of an operation in messages. -/
def UnaryOperation.name : UnaryOperation → String
  | twice => "twice"
  | square => "square"
  | cube => "cube"
  | squareRoot => "square_root"

def UnaryOperation.all : List UnaryOperation :=
  [.twice, .square, .cube, .squareRoot]

/-- The tests that a conditional jump may apply: a comparison or its denial. -/
inductive Predicate where
  | equals
  | lessThan
  | greaterThan
  | notEqual
  | lessEqual
  | greaterEqual
deriving Repr, Inhabited, DecidableEq

namespace Predicate

def symbol : Predicate → String
  | equals => "="
  | lessThan => "<"
  | greaterThan => ">"
  | notEqual => "!="
  | lessEqual => "<="
  | greaterEqual => ">="

def all : List Predicate :=
  [equals, lessThan, greaterThan, notEqual, lessEqual, greaterEqual]

/-- The predicate with a given symbol. -/
def ofSymbol? (symbol : String) : Option Predicate :=
  all.find? fun predicate => predicate.symbol == symbol

/-- The predicate that holds exactly when this one fails. -/
def negated : Predicate → Predicate
  | equals => notEqual
  | notEqual => equals
  | lessThan => greaterEqual
  | greaterEqual => lessThan
  | greaterThan => lessEqual
  | lessEqual => greaterThan

/-- Whether a predicate holds of two numbers. -/
def holds (predicate : Predicate) (lhs rhs : Int) : Bool :=
  match predicate with
  | equals => lhs == rhs
  | lessThan => lhs < rhs
  | greaterThan => rhs < lhs
  | notEqual => lhs != rhs
  | lessEqual => lhs ≤ rhs
  | greaterEqual => rhs ≤ lhs

/-- A predicate and its negation never agree. -/
theorem holds_negated (predicate : Predicate) (lhs rhs : Int) :
    predicate.negated.holds lhs rhs = !predicate.holds lhs rhs := by
  cases predicate <;> simp only [negated, holds, bne, Bool.not_not] <;>
    rw [← decide_not] <;> exact decide_eq_decide.mpr (by omega)

/-- Negating twice changes nothing. -/
@[simp] theorem negated_negated (predicate : Predicate) :
    predicate.negated.negated = predicate := by
  cases predicate <;> rfl

end Predicate

/-- The predicate that a comparison asks for. -/
def Comparison.predicate : Comparison → Predicate
  | lessThan => .lessThan
  | equals => .equals
  | greaterThan => .greaterThan

end Playhouse
