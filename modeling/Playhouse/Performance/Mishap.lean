/-
Module: Playhouse.Performance.Mishap
Purpose: What may go wrong while a play is performed.
Main exports: InputFault, MishapCause, Mishap, MishapCause.quoting
-/
import Playhouse.Breakdown
import Playhouse.Operation
import Playhouse.Text.Integer
import Playhouse.Text.Quoted

namespace Playhouse

open Text

/-- Why no number can be read. -/
inductive InputFault where
  /-- The prepared numbers are used up. -/
  | noNumberLeft
  | endOfInput
  | notANumber (line : List Char)
deriving Repr, Inhabited, DecidableEq

/-- The wording of an input fault. -/
def InputFault.message : InputFault → String
  | noNumberLeft => "No numeric input left"
  | endOfInput => "End of input while reading a number"
  | notANumber line => "Expected a number, got " ++ String.ofList (quoted line)

/-- Why a performance stops before its end. -/
inductive MishapCause where
  | noSuchScene (tag : String)
  | divisionByZero
  | moduloByZero
  | unprintable (value : Int)
  | negativeRoot (value : Int)
  | tooLarge (operation : UnaryOperation) (value : Int)
  | undeclared (name : Option String)
  | emptyStack (name : String)
  | input (fault : InputFault)
  | stepLimit (limit : Int)
  /-- A number has too many digits to be written. -/
  | digitLimit
  /-- A value is asked of something that has none. -/
  | noValue (message : String)
  /-- Whoever takes the output does not take a piece of it. -/
  | refused (breakdown : Breakdown)
deriving Repr, Inhabited, DecidableEq

/-- A cause and the line of the node that brought it about. -/
structure Mishap where
  cause : MishapCause
  line : Nat
deriving Repr, Inhabited, DecidableEq

/-- A cause whose wording quotes a number.  A number that cannot be written is a
cause of its own. -/
def MishapCause.quoting (value : Int) (cause : MishapCause) : MishapCause :=
  if isWritable value then cause else digitLimit

end Playhouse
