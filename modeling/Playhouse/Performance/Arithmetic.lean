/-
Module: Playhouse.Performance.Arithmetic
Purpose: The arithmetic of plays and the values of expressions.
Main exports: floorSqrt, largestPower, Store, BinaryOperation.apply, UnaryOperation.apply,
  Expr.evaluate
-/
import Playhouse.Ledger
import Playhouse.Node
import Playhouse.Performance.Mishap

namespace Playhouse

/-! ### Square roots -/

/-- The integer part of the square root, found digit by digit in base two. -/
def floorSqrt (n : Nat) : Nat :=
  if n = 0 then 0
  else
    let candidate := 2 * floorSqrt (n / 4) + 1
    if candidate * candidate ≤ n then candidate else candidate - 1

/-- The square of the integer part is at most the number, and the next square is
greater. -/
theorem floorSqrt_bounds (n : Nat) :
    floorSqrt n * floorSqrt n ≤ n ∧ n < (floorSqrt n + 1) * (floorSqrt n + 1) := by
  induction n using Nat.strongRecOn with
  | _ n inductionHypothesis =>
      unfold floorSqrt
      by_cases isZero : n = 0
      · subst isZero
        simp
      · have quarter := inductionHypothesis (n / 4) (by omega)
        simp only [isZero, if_false]
        generalize floorSqrt (n / 4) = root at quarter
        obtain ⟨below, above⟩ := quarter
        have low : 4 * (root * root) ≤ n := by omega
        have high : n < 4 * ((root + 1) * (root + 1)) := by omega
        have double : 2 * root * (2 * root) = 4 * (root * root) := by
          simp [Nat.mul_comm, Nat.mul_left_comm, ← Nat.mul_assoc]
        have next : (2 * root + 2) * (2 * root + 2) = 4 * ((root + 1) * (root + 1)) := by
          have : 2 * root + 2 = 2 * (root + 1) := by omega
          rw [this]
          simp [Nat.mul_comm, Nat.mul_left_comm, ← Nat.mul_assoc]
        split
        · exact ⟨by assumption, by rw [show 2 * root + 1 + 1 = 2 * root + 2 from rfl]; omega⟩
        · simp only [Nat.add_sub_cancel]
          exact ⟨by omega, by omega⟩

/-! ### Operations -/

/-- The greatest magnitude that a square or cube may have. -/
def largestPower : Nat := (Nat.pow 2 53 - 1) * Nat.pow 2 971

/-- Apply an operation to two numbers.  Division cuts off toward zero, and the
remainder is what such a division leaves. -/
def BinaryOperation.apply (operation : BinaryOperation) (lhs rhs : Int) (line : Nat) :
    Except Mishap Int :=
  match operation with
  | add => .ok (lhs + rhs)
  | subtract => .ok (lhs - rhs)
  | multiply => .ok (lhs * rhs)
  | divide =>
      if rhs = 0 then .error ⟨.divisionByZero, line⟩ else .ok (lhs.tdiv rhs)
  | modulo =>
      if rhs = 0 then .error ⟨.moduloByZero, line⟩ else .ok (lhs.tmod rhs)

/-- A power, provided that it is not too large. -/
def boundedPower (operation : UnaryOperation) (value power : Int) (line : Nat) :
    Except Mishap Int :=
  if largestPower < power.natAbs then .error ⟨.quoting value (.tooLarge operation value), line⟩
  else .ok power

/-- Apply an operation to one number. -/
def UnaryOperation.apply (operation : UnaryOperation) (value : Int) (line : Nat) :
    Except Mishap Int :=
  match operation with
  | twice => .ok (2 * value)
  | square => boundedPower square value (value * value) line
  | cube => boundedPower cube value (value * value * value) line
  | squareRoot =>
      if value < 0 then .error ⟨.quoting value (.negativeRoot value), line⟩
      else .ok (floorSqrt value.natAbs)

/-! ### Values -/

/-- The number of every character. -/
abbrev Store := Ledger (Option String) Int

/-- The number of a character. -/
def Store.read (store : Store) (name : Option String) (line : Nat) : Except Mishap Int :=
  match store.get? name with
  | some value => .ok value
  | none => .error ⟨.undeclared name, line⟩

/-- The wording for something that has no value. -/
def Foreign.complaint (thing : Foreign) : String :=
  "Not an expression: " ++ thing.full

/-- The value of an expression.  Operands are evaluated from left to right before
their operation. -/
def Expr.evaluate (store : Store) : Expr → Except Mishap Int
  | character name line => store.read name line
  | number value _ => .ok value
  | unary operation operand line => do
      let value ← operand.evaluate store
      operation.apply value line
  | binary operation lhs rhs line => do
      let left ← lhs.evaluate store
      let right ← rhs.evaluate store
      operation.apply left right line
  | foreign thing line => .error ⟨.noValue thing.complaint, line⟩

end Playhouse
