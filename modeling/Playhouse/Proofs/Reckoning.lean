/-
Module: Playhouse.Proofs.Reckoning
Purpose: The values of expressions by the laws of arithmetic, without an algorithm, and the
  agreement of evaluation with them: which expressions have a value, which value it is, and which
  part of an expression is to blame if it has none.
Main exports: IsDivision, UnaryOperation.Gives, BinaryOperation.Gives, UnaryOperation.Refuses,
  BinaryOperation.Refuses, Expr.Worth, Expr.parts, Expr.Faults, Expr.FaultsFirst, Expr.IsSound,
  evaluation_follows_arithmetic
-/
import Mathlib.Algebra.Group.Int.Defs
import Mathlib.Algebra.Group.Nat.Defs
import Playhouse.Diagnostic
import Playhouse.Proofs.Performance

namespace Playhouse

open Text

/-!
An operation is described twice over: by the number that it gives, as a relation between
operands and result, and by the operands that it refuses.  An expression is worth a number if
its operands are and its operation gives that number; a part of it is at fault if its operands
are worth numbers that its operation refuses, or if it is a character without a number.
Evaluation finds the worth of an expression, or else the fault of the first of its parts that
has one, taken from left to right with operands in front of their operation.
-/

/-! ### Operations by their laws -/

/-- Quotient and remainder of a division that cuts off toward zero: the remainder is less than
the divisor and has the sign of the dividend. -/
structure IsDivision (dividend divisor quotient remainder : Int) : Prop where
  sum : dividend = divisor * quotient + remainder
  small : remainder.natAbs < divisor.natAbs
  sign : remainder = 0 ∨ remainder.sign = dividend.sign

/-- The number that an operation on one number gives.  Powers are exact, and none is greater
than the greatest finite number in double precision; a root is cut off. -/
def UnaryOperation.Gives : UnaryOperation → Int → Int → Prop
  | twice, value, result => result = 2 * value
  | square, value, result => result = value ^ 2 ∧ result.natAbs ≤ (2 ^ 53 - 1) * 2 ^ 971
  | cube, value, result => result = value ^ 3 ∧ result.natAbs ≤ (2 ^ 53 - 1) * 2 ^ 971
  | squareRoot, value, result => 0 ≤ result ∧ result ^ 2 ≤ value ∧ value < (result + 1) ^ 2

/-- The number that an operation on two numbers gives. -/
def BinaryOperation.Gives : BinaryOperation → Int → Int → Int → Prop
  | add, lhs, rhs, result => result = lhs + rhs
  | subtract, lhs, rhs, result => result = lhs - rhs
  | multiply, lhs, rhs, result => result = lhs * rhs
  | divide, lhs, rhs, result => ∃ remainder, IsDivision lhs rhs result remainder
  | modulo, lhs, rhs, result => ∃ quotient, IsDivision lhs rhs quotient result

/-- The numbers that an operation on one number refuses, with what is said of them. -/
inductive UnaryOperation.Refuses : UnaryOperation → Int → String → Prop where
  | square {value : Int} (tooLarge : (2 ^ 53 - 1) * 2 ^ 971 < (value ^ 2).natAbs) :
      Refuses .square value ("square of " ++ written value ++ " overflows")
  | cube {value : Int} (tooLarge : (2 ^ 53 - 1) * 2 ^ 971 < (value ^ 3).natAbs) :
      Refuses .cube value ("cube of " ++ written value ++ " overflows")
  | squareRoot {value : Int} (negative : value < 0) :
      Refuses .squareRoot value ("Square root of negative value " ++ written value)

/-- The second numbers that an operation on two numbers refuses, with what is said of them. -/
inductive BinaryOperation.Refuses : BinaryOperation → Int → String → Prop where
  | divide : Refuses .divide 0 "Division by zero"
  | modulo : Refuses .modulo 0 "Modulo by zero"

/-! ### Arithmetic obeys the laws -/

theorem isDivision_of_ne_zero {divisor : Int} (nonzero : divisor ≠ 0) (dividend : Int) :
    IsDivision dividend divisor (dividend.tdiv divisor) (dividend.tmod divisor) := by
  constructor
  · exact (Int.mul_tdiv_add_tmod dividend divisor).symm
  · rw [Int.natAbs_tmod]
    exact Nat.mod_lt _ (Int.natAbs_pos.mpr nonzero)
  · by_cases divides : divisor ∣ dividend
    · exact Or.inl (Int.tmod_eq_zero_of_dvd divides)
    · exact Or.inr (by rw [Int.sign_tmod, if_neg divides])

/-- The laws of division leave one quotient and one remainder. -/
theorem IsDivision.unique {dividend divisor quotient remainder : Int}
    (division : IsDivision dividend divisor quotient remainder) :
    divisor ≠ 0 ∧ dividend.tdiv divisor = quotient ∧ dividend.tmod divisor = remainder := by
  obtain ⟨sum, small, sign⟩ := division
  have nonzero : divisor ≠ 0 := by omega
  refine ⟨nonzero, ?_⟩
  rcases Int.le_total 0 dividend with positive | negative
  · have signed : 0 ≤ remainder := by
      rcases sign with isZero | sameSign
      · omega
      · rw [← Int.sign_nonneg_iff, sameSign]
        exact Int.sign_nonneg_iff.mpr positive
    exact (Int.tdiv_tmod_unique positive nonzero).mpr ⟨by omega, signed, by omega⟩
  · have signed : remainder ≤ 0 := by
      rcases sign with isZero | sameSign
      · omega
      · rw [← Int.sign_nonpos_iff, sameSign]
        exact Int.sign_nonpos_iff.mpr negative
    exact (Int.tdiv_tmod_unique' negative nonzero).mpr ⟨by omega, by omega, signed⟩

/-- The laws of the root leave one number. -/
theorem eq_floorSqrt {root value : Nat} (below : root * root ≤ value)
    (above : value < (root + 1) * (root + 1)) : root = floorSqrt value := by
  obtain ⟨floorBelow, floorAbove⟩ := floorSqrt_bounds value
  have atMost := Nat.mul_self_lt_mul_self_iff.mp (Nat.lt_of_le_of_lt below floorAbove)
  have atLeast := Nat.mul_self_lt_mul_self_iff.mp (Nat.lt_of_le_of_lt floorBelow above)
  omega

theorem gives_squareRoot_iff {value result : Int} :
    UnaryOperation.squareRoot.Gives value result ↔
      0 ≤ value ∧ result = floorSqrt value.natAbs := by
  constructor
  · rintro ⟨nonneg, below, above⟩
    obtain ⟨root, rfl⟩ := Int.eq_ofNat_of_zero_le nonneg
    have valueNonneg : 0 ≤ value := Int.le_trans (Int.pow_nonneg nonneg) below
    obtain ⟨number, rfl⟩ := Int.eq_ofNat_of_zero_le valueNonneg
    refine ⟨valueNonneg, ?_⟩
    rw [pow_two] at below above
    rw [Int.natAbs_natCast]
    exact congrArg Nat.cast (eq_floorSqrt (by exact_mod_cast below) (by exact_mod_cast above))
  · rintro ⟨nonneg, rfl⟩
    obtain ⟨number, rfl⟩ := Int.eq_ofNat_of_zero_le nonneg
    obtain ⟨below, above⟩ := floorSqrt_bounds number
    rw [Int.natAbs_natCast]
    refine ⟨Int.natCast_nonneg _, ?_, ?_⟩
    · rw [pow_two]
      exact_mod_cast below
    · rw [pow_two]
      exact_mod_cast above

theorem largestPower_eq : largestPower = (2 ^ 53 - 1) * 2 ^ 971 := by
  unfold largestPower
  generalize 53 = first, 971 = second
  rfl

/-! ### Numbers in messages -/

/-- The report of an arithmetic fault that quotes a number.  A number with more than 4300 digits
cannot be written, and that is then reported instead. -/
def Failure.quoting (value : Int) (message : String) (line : Nat) : Failure :=
  if (naturalNumeral value.natAbs).length ≤ 4300 then
    .diagnosed ⟨"ArithmeticFault", message, some line⟩
  else .badValue digitLimitMessage

theorem isWritable_iff {value : Int} :
    isWritable value = true ↔ (naturalNumeral value.natAbs).length ≤ digitLimit := by
  have positive : 0 < digitLimit := by decide
  unfold isWritable firstUnwritable
  generalize digitLimit = limit at positive ⊢
  rw [decide_eq_true_iff]
  exact (Nat.length_toDigits_le_iff (by decide) positive).symm

theorem failure_quoting {value : Int} {cause : MishapCause} {message : String} {line : Nat}
    (reported : Mishap.failure ⟨cause, line⟩ =
      .diagnosed ⟨"ArithmeticFault", message, some line⟩) :
    Mishap.failure ⟨.quoting value cause, line⟩ = .quoting value message line := by
  rw [MishapCause.quoting, Failure.quoting]
  by_cases short : (naturalNumeral value.natAbs).length ≤ 4300
  · rw [if_pos short, if_pos (isWritable_iff.mpr short)]
    exact reported
  · rw [if_neg short, if_neg (mt isWritable_iff.mp short)]
    rfl

/-! ### Operations give or refuse -/

theorem boundedPower_eq_ok_iff {operation : UnaryOperation} {value power result : Int}
    {line : Nat} :
    boundedPower operation value power line = .ok result ↔
      result = power ∧ result.natAbs ≤ (2 ^ 53 - 1) * 2 ^ 971 := by
  rw [boundedPower, largestPower_eq]
  generalize (2 ^ 53 - 1) * 2 ^ 971 = bound
  split
  · rename_i tooLarge
    simp only [reduceCtorEq, false_iff]
    rintro ⟨rfl, bounded⟩
    omega
  · rename_i bounded
    rw [Except.ok.injEq]
    constructor
    · rintro rfl
      exact ⟨rfl, by omega⟩
    · rintro ⟨rfl, _⟩
      rfl

theorem tooLarge_of_boundedPower {operation : UnaryOperation} {value power : Int} {line : Nat}
    {mishap : Mishap} (failed : boundedPower operation value power line = .error mishap) :
    (2 ^ 53 - 1) * 2 ^ 971 < power.natAbs ∧
      mishap.failure = .quoting value (operation.name ++ " of " ++ written value ++ " overflows")
        line := by
  rw [boundedPower, largestPower_eq] at failed
  generalize (2 ^ 53 - 1) * 2 ^ 971 = bound at failed ⊢
  split at failed
  · obtain rfl := Except.error.inj failed
    exact ⟨by assumption, failure_quoting rfl⟩
  · cases failed

namespace UnaryOperation

/-- An operation gives the number that its law demands. -/
theorem apply_eq_ok_iff {operation : UnaryOperation} {value result : Int} {line : Nat} :
    operation.apply value line = .ok result ↔ operation.Gives value result := by
  cases operation with
  | twice =>
      rw [apply, Gives, Except.ok.injEq]
      exact eq_comm
  | square => rw [apply, boundedPower_eq_ok_iff, Gives, pow_two]
  | cube =>
      have cubed : value ^ 3 = value * value * value := by rw [pow_succ, pow_two]
      rw [apply, boundedPower_eq_ok_iff, Gives, cubed]
  | squareRoot =>
      rw [apply, gives_squareRoot_iff]
      split
      · simp only [reduceCtorEq, false_iff]
        omega
      · rw [Except.ok.injEq]
        exact ⟨fun isRoot => ⟨by omega, isRoot.symm⟩, fun isRoot => isRoot.2.symm⟩

/-- An operation that gives nothing refuses its number. -/
theorem refuses_of_apply {operation : UnaryOperation} {value : Int} {line : Nat}
    {mishap : Mishap} (failed : operation.apply value line = .error mishap) :
    ∃ message, operation.Refuses value message ∧
      mishap.failure = .quoting value message line := by
  cases operation with
  | twice => cases failed
  | square =>
      obtain ⟨tooLarge, reported⟩ := tooLarge_of_boundedPower failed
      rw [← pow_two] at tooLarge
      exact ⟨_, .square tooLarge, reported⟩
  | cube =>
      obtain ⟨tooLarge, reported⟩ := tooLarge_of_boundedPower failed
      rw [← pow_two, ← pow_succ] at tooLarge
      exact ⟨_, .cube tooLarge, reported⟩
  | squareRoot =>
      rw [apply] at failed
      split at failed
      · rename_i negative
        obtain rfl := Except.error.inj failed
        exact ⟨_, .squareRoot negative, failure_quoting rfl⟩
      · cases failed

/-- No operation gives a number for one that it refuses. -/
theorem Refuses.not_gives {operation : UnaryOperation} {value result : Int} {message : String}
    (refuses : operation.Refuses value message) : ¬ operation.Gives value result := by
  cases refuses with
  | square tooLarge =>
      rintro ⟨rfl, bounded⟩
      exact Nat.not_le_of_lt tooLarge bounded
  | cube tooLarge =>
      rintro ⟨rfl, bounded⟩
      exact Nat.not_le_of_lt tooLarge bounded
  | squareRoot negative =>
      rw [gives_squareRoot_iff]
      omega

/-- An operation says one thing at most of a number that it refuses. -/
theorem Refuses.unique {operation : UnaryOperation} {value : Int} {message other : String}
    (refuses : operation.Refuses value message) (also : operation.Refuses value other) :
    message = other := by
  cases refuses <;> cases also <;> rfl

end UnaryOperation

namespace BinaryOperation

theorem unlessZero_eq_ok_iff {divisor value result : Int} {mishap : Mishap} :
    (if divisor = 0 then Except.error mishap else .ok value) = .ok result ↔
      divisor ≠ 0 ∧ value = result := by
  split <;> simp_all

theorem unlessZero_eq_error_iff {divisor value : Int} {mishap other : Mishap} :
    (if divisor = 0 then Except.error mishap else .ok value) = .error other ↔
      divisor = 0 ∧ mishap = other := by
  split <;> simp_all

/-- An operation gives the number that its law demands. -/
theorem apply_eq_ok_iff {operation : BinaryOperation} {lhs rhs result : Int} {line : Nat} :
    operation.apply lhs rhs line = .ok result ↔ operation.Gives lhs rhs result := by
  cases operation with
  | add | subtract | multiply =>
      rw [apply, Gives, Except.ok.injEq]
      exact eq_comm
  | divide =>
      rw [apply, unlessZero_eq_ok_iff]
      constructor
      · rintro ⟨nonzero, rfl⟩
        exact ⟨_, isDivision_of_ne_zero nonzero lhs⟩
      · rintro ⟨remainder, division⟩
        exact ⟨division.unique.1, division.unique.2.1⟩
  | modulo =>
      rw [apply, unlessZero_eq_ok_iff]
      constructor
      · rintro ⟨nonzero, rfl⟩
        exact ⟨_, isDivision_of_ne_zero nonzero lhs⟩
      · rintro ⟨quotient, division⟩
        exact ⟨division.unique.1, division.unique.2.2⟩

/-- An operation that gives nothing refuses its second number. -/
theorem refuses_of_apply {operation : BinaryOperation} {lhs rhs : Int} {line : Nat}
    {mishap : Mishap} (failed : operation.apply lhs rhs line = .error mishap) :
    ∃ message, operation.Refuses rhs message ∧
      mishap.failure = .diagnosed ⟨"ArithmeticFault", message, some line⟩ := by
  cases operation with
  | add | subtract | multiply => cases failed
  | divide =>
      obtain ⟨rfl, rfl⟩ := unlessZero_eq_error_iff.mp failed
      exact ⟨_, .divide, rfl⟩
  | modulo =>
      obtain ⟨rfl, rfl⟩ := unlessZero_eq_error_iff.mp failed
      exact ⟨_, .modulo, rfl⟩

/-- No operation gives a number for one that it refuses. -/
theorem Refuses.not_gives {operation : BinaryOperation} {lhs rhs result : Int} {message : String}
    (refuses : operation.Refuses rhs message) : ¬ operation.Gives lhs rhs result := by
  cases refuses with
  | divide =>
      rintro ⟨remainder, division⟩
      exact division.unique.1 rfl
  | modulo =>
      rintro ⟨quotient, division⟩
      exact division.unique.1 rfl

theorem Refuses.unique {operation : BinaryOperation} {value : Int} {message other : String}
    (refuses : operation.Refuses value message) (also : operation.Refuses value other) :
    message = other := by
  cases refuses <;> cases also <;> rfl

end BinaryOperation

/-! ### The worth of an expression and its faults -/

namespace Expr

/-- The number that an expression is worth. -/
inductive Worth (store : Store) : Expr → Int → Prop where
  | character {name : Option String} {line : Nat} {value : Int}
      (known : store.get? name = some value) : Worth store (.character name line) value
  | number {value : Int} {line : Nat} : Worth store (.number value line) value
  | unary {operation : UnaryOperation} {operand : Expr} {line : Nat} {value result : Int}
      (inner : Worth store operand value) (gives : operation.Gives value result) :
      Worth store (.unary operation operand line) result
  | binary {operation : BinaryOperation} {lhs rhs : Expr} {line : Nat} {left right result : Int}
      (leftWorth : Worth store lhs left) (rightWorth : Worth store rhs right)
      (gives : operation.Gives left right result) :
      Worth store (.binary operation lhs rhs line) result

/-- The parts of an expression from left to right, operands in front of their operation. -/
def parts : Expr → List Expr
  | unary operation operand line => operand.parts ++ [unary operation operand line]
  | binary operation lhs rhs line => lhs.parts ++ (rhs.parts ++ [binary operation lhs rhs line])
  | leaf => [leaf]

/-- What is reported of a part that has no value although its operands have one. -/
inductive Faults (store : Store) : Expr → Failure → Prop where
  | unknown {name : Option String} {line : Nat} (unknown : name ∉ store.keys) :
      Faults store (.character name line)
        (.diagnosed ⟨"UndeclaredVariable", name.getD "None" ++ " was never declared", some line⟩)
  | unary {operation : UnaryOperation} {operand : Expr} {line : Nat} {value : Int}
      {message : String} (inner : Worth store operand value)
      (refuses : operation.Refuses value message) :
      Faults store (.unary operation operand line) (.quoting value message line)
  | binary {operation : BinaryOperation} {lhs rhs : Expr} {line : Nat} {left right : Int}
      {message : String} (leftWorth : Worth store lhs left) (rightWorth : Worth store rhs right)
      (refuses : operation.Refuses right message) :
      Faults store (.binary operation lhs rhs line)
        (.diagnosed ⟨"ArithmeticFault", message, some line⟩)
  | foreign {thing : Foreign} {line : Nat} :
      Faults store (.foreign thing line) (.noValue thing.complaint)

/-- The fault of the first part that has one: all parts in front of it are worth something. -/
def FaultsFirst (store : Store) (parts : List Expr) (failure : Failure) : Prop :=
  ∃ before part after, parts = before ++ part :: after ∧
    (∀ earlier ∈ before, ∃ value, Worth store earlier value) ∧ Faults store part failure

/-- A part in which nothing is missing and nothing is refused: a character has a number, a
divisor is not zero, a number under a root is not negative, and a power is not too large. -/
def IsSound (store : Store) : Expr → Prop
  | character name _ => name ∈ store.keys
  | number _ _ => True
  | unary operation operand _ =>
      ∀ value message, Worth store operand value → ¬ operation.Refuses value message
  | binary operation _ rhs _ =>
      ∀ value message, Worth store rhs value → ¬ operation.Refuses value message
  | foreign _ _ => False

/-- The failure of an evaluation, if it fails. -/
def failure? (store : Store) (expression : Expr) : Option Failure :=
  match expression.evaluate store with
  | .ok _ => none
  | .error mishap => some mishap.failure

/-! ### Evaluation step by step -/

section

variable {store : Store} {operand lhs rhs : Expr} {left right value : Int} {mishap : Mishap}

theorem evaluate_unary (evaluated : operand.evaluate store = .ok value)
    (operation : UnaryOperation) (line : Nat) :
    (unary operation operand line).evaluate store = operation.apply value line := by
  rw [evaluate, evaluated]
  rfl

theorem evaluate_unary_error (failed : operand.evaluate store = .error mishap)
    (operation : UnaryOperation) (line : Nat) :
    (unary operation operand line).evaluate store = .error mishap := by
  rw [evaluate, failed]
  rfl

theorem evaluate_binary (evaluatedLeft : lhs.evaluate store = .ok left)
    (evaluatedRight : rhs.evaluate store = .ok right) (operation : BinaryOperation) (line : Nat) :
    (binary operation lhs rhs line).evaluate store = operation.apply left right line := by
  rw [evaluate, evaluatedLeft, evaluatedRight]
  rfl

theorem evaluate_binary_left (failed : lhs.evaluate store = .error mishap)
    (operation : BinaryOperation) (rhs : Expr) (line : Nat) :
    (binary operation lhs rhs line).evaluate store = .error mishap := by
  rw [evaluate, failed]
  rfl

theorem evaluate_binary_right (evaluated : lhs.evaluate store = .ok left)
    (failed : rhs.evaluate store = .error mishap) (operation : BinaryOperation) (line : Nat) :
    (binary operation lhs rhs line).evaluate store = .error mishap := by
  rw [evaluate, evaluated, failed]
  rfl

end

/-! ### Evaluation finds the worth -/

section

variable {store : Store} {expression part : Expr} {value : Int} {failure : Failure}

/-- What an expression is worth is its value. -/
theorem Worth.evaluate_eq (worth : Worth store expression value) :
    expression.evaluate store = .ok value := by
  induction worth with
  | character known => simp [evaluate, Store.read, known]
  | number => rfl
  | unary inner gives evaluated =>
      rw [evaluate_unary evaluated, UnaryOperation.apply_eq_ok_iff]
      exact gives
  | binary leftWorth rightWorth gives evaluatedLeft evaluatedRight =>
      rw [evaluate_binary evaluatedLeft evaluatedRight, BinaryOperation.apply_eq_ok_iff]
      exact gives

/-- The fault of a part is what its evaluation reports. -/
theorem Faults.failure?_eq (faults : Faults store part failure) :
    part.failure? store = some failure := by
  cases faults with
  | unknown unknown =>
      simp [failure?, evaluate, Store.read, Ledger.get?_eq_none_iff.mpr unknown, Mishap.failure]
  | @unary operation operand line value message inner refuses =>
      rw [failure?, evaluate_unary inner.evaluate_eq]
      cases applied : operation.apply value line with
      | ok result => exact absurd (UnaryOperation.apply_eq_ok_iff.mp applied) refuses.not_gives
      | error mishap =>
          obtain ⟨other, also, reported⟩ := UnaryOperation.refuses_of_apply applied
          rw [refuses.unique also]
          exact congrArg some reported
  | @binary operation lhs rhs line left right message leftWorth rightWorth refuses =>
      rw [failure?, evaluate_binary leftWorth.evaluate_eq rightWorth.evaluate_eq]
      cases applied : operation.apply left right line with
      | ok result => exact absurd (BinaryOperation.apply_eq_ok_iff.mp applied) refuses.not_gives
      | error mishap =>
          obtain ⟨other, also, reported⟩ := BinaryOperation.refuses_of_apply applied
          rw [refuses.unique also]
          exact congrArg some reported
  | foreign => rfl

/-- The value of an expression is what it is worth. -/
theorem worth_of_evaluate (evaluated : expression.evaluate store = .ok value) :
    Worth store expression value := by
  induction expression generalizing value with
  | character name line => exact .character (get?_of_read evaluated)
  | number number line =>
      obtain rfl := Except.ok.inj evaluated
      exact .number
  | unary operation operand line inner =>
      cases evaluatedOperand : operand.evaluate store with
      | error mishap =>
          rw [evaluate_unary_error evaluatedOperand] at evaluated
          cases evaluated
      | ok number =>
          rw [evaluate_unary evaluatedOperand] at evaluated
          exact .unary (inner evaluatedOperand) (UnaryOperation.apply_eq_ok_iff.mp evaluated)
  | binary operation lhs rhs line leftInner rightInner =>
      cases evaluatedLeft : lhs.evaluate store with
      | error mishap =>
          rw [evaluate_binary_left evaluatedLeft] at evaluated
          cases evaluated
      | ok left =>
          cases evaluatedRight : rhs.evaluate store with
          | error mishap =>
              rw [evaluate_binary_right evaluatedLeft evaluatedRight] at evaluated
              cases evaluated
          | ok right =>
              rw [evaluate_binary evaluatedLeft evaluatedRight] at evaluated
              exact .binary (leftInner evaluatedLeft) (rightInner evaluatedRight)
                (BinaryOperation.apply_eq_ok_iff.mp evaluated)
  | foreign transcript line => cases evaluated

theorem evaluate_eq_ok_iff :
    expression.evaluate store = .ok value ↔ Worth store expression value :=
  ⟨worth_of_evaluate, Worth.evaluate_eq⟩

/-! ### Evaluation finds the first fault -/

/-- The parts of an expression that is worth something are worth something. -/
theorem Worth.parts_worth (worth : Worth store expression value) :
    ∀ part ∈ expression.parts, ∃ number, Worth store part number := by
  induction worth with
  | character known =>
      rintro part (_ | ⟨_, ⟨⟩⟩)
      exact ⟨_, .character known⟩
  | number =>
      rintro part (_ | ⟨_, ⟨⟩⟩)
      exact ⟨_, .number⟩
  | unary inner gives innerParts =>
      intro part member
      rcases List.mem_append.mp member with isInner | isWhole
      · exact innerParts part isInner
      · rw [List.mem_singleton.mp isWhole]
        exact ⟨_, .unary inner gives⟩
  | binary leftWorth rightWorth gives leftParts rightParts =>
      intro part member
      rcases List.mem_append.mp member with isLeft | others
      · exact leftParts part isLeft
      · rcases List.mem_append.mp others with isRight | isWhole
        · exact rightParts part isRight
        · rw [List.mem_singleton.mp isWhole]
          exact ⟨_, .binary leftWorth rightWorth gives⟩

theorem Faults.first (faults : Faults store part failure) : FaultsFirst store [part] failure :=
  ⟨[], part, [], rfl, fun _ member => (List.not_mem_nil member).elim, faults⟩

theorem FaultsFirst.followed {parts : List Expr} (first : FaultsFirst store parts failure)
    (more : List Expr) : FaultsFirst store (parts ++ more) failure := by
  obtain ⟨before, part, after, rfl, worth, faults⟩ := first
  exact ⟨before, part, after ++ more, by simp, worth, faults⟩

theorem FaultsFirst.behind {parts earlier : List Expr}
    (first : FaultsFirst store parts failure)
    (worthEarlier : ∀ part ∈ earlier, ∃ value, Worth store part value) :
    FaultsFirst store (earlier ++ parts) failure := by
  obtain ⟨before, part, after, rfl, worth, faults⟩ := first
  refine ⟨earlier ++ before, part, after, by simp, ?_, faults⟩
  intro other member
  exact (List.mem_append.mp member).elim (worthEarlier other) (worth other)

/-- An expression without a value has a first fault, and that is what is reported. -/
theorem faultsFirst_of_evaluate {mishap : Mishap}
    (failed : expression.evaluate store = .error mishap) :
    FaultsFirst store expression.parts mishap.failure := by
  induction expression with
  | character name line =>
      obtain ⟨unknown, rfl⟩ := unknown_of_read failed
      exact (Faults.unknown (Ledger.get?_eq_none_iff.mp unknown)).first
  | number number line => cases failed
  | unary operation operand line inner =>
      cases evaluatedOperand : operand.evaluate store with
      | error earlier =>
          rw [evaluate_unary_error evaluatedOperand] at failed
          obtain rfl := Except.error.inj failed
          exact (inner evaluatedOperand).followed _
      | ok number =>
          have worth := worth_of_evaluate evaluatedOperand
          rw [evaluate_unary evaluatedOperand] at failed
          obtain ⟨message, refuses, reported⟩ := UnaryOperation.refuses_of_apply failed
          rw [reported]
          exact (Faults.unary worth refuses).first.behind worth.parts_worth
  | binary operation lhs rhs line leftInner rightInner =>
      cases evaluatedLeft : lhs.evaluate store with
      | error earlier =>
          rw [evaluate_binary_left evaluatedLeft] at failed
          obtain rfl := Except.error.inj failed
          exact (leftInner evaluatedLeft).followed _
      | ok left =>
          have leftWorth := worth_of_evaluate evaluatedLeft
          apply FaultsFirst.behind _ leftWorth.parts_worth
          cases evaluatedRight : rhs.evaluate store with
          | error earlier =>
              rw [evaluate_binary_right evaluatedLeft evaluatedRight] at failed
              obtain rfl := Except.error.inj failed
              exact (rightInner evaluatedRight).followed _
          | ok right =>
              have rightWorth := worth_of_evaluate evaluatedRight
              rw [evaluate_binary evaluatedLeft evaluatedRight] at failed
              obtain ⟨message, refuses, reported⟩ := BinaryOperation.refuses_of_apply failed
              rw [reported]
              exact (Faults.binary leftWorth rightWorth refuses).first.behind
                rightWorth.parts_worth
  | foreign transcript line =>
      obtain rfl := Except.error.inj failed
      exact Faults.foreign.first

theorem failure?_eq_none_iff :
    expression.failure? store = none ↔ ∃ value, Worth store expression value := by
  rw [failure?]
  cases evaluated : expression.evaluate store with
  | ok value => exact iff_of_true rfl ⟨value, worth_of_evaluate evaluated⟩
  | error mishap =>
      refine iff_of_false (by simp) ?_
      rintro ⟨value, worth⟩
      rw [worth.evaluate_eq] at evaluated
      cases evaluated

/-- An expression fails as the first of its parts that fails. -/
theorem failure?_eq_findSome? (store : Store) (expression : Expr) :
    expression.failure? store = expression.parts.findSome? (failure? store) := by
  induction expression with
  | character | number | foreign => simp [parts]
  | unary operation operand line inner =>
      rw [parts, List.findSome?_append, ← inner]
      cases evaluated : operand.evaluate store with
      | error mishap => simp [failure?, evaluated, evaluate_unary_error evaluated]
      | ok value => simp [failure?, evaluated]
  | binary operation lhs rhs line leftInner rightInner =>
      rw [parts, List.findSome?_append, List.findSome?_append, ← leftInner, ← rightInner]
      cases evaluatedLeft : lhs.evaluate store with
      | error mishap => simp [failure?, evaluatedLeft, evaluate_binary_left evaluatedLeft]
      | ok left =>
          cases evaluatedRight : rhs.evaluate store with
          | error mishap =>
              simp [failure?, evaluatedLeft, evaluatedRight,
                evaluate_binary_right evaluatedLeft evaluatedRight]
          | ok right => simp [failure?, evaluatedLeft, evaluatedRight]

theorem failure?_eq_some_iff :
    expression.failure? store = some failure ↔
      FaultsFirst store expression.parts failure := by
  constructor
  · intro failed
    rw [failure?] at failed
    split at failed
    · cases failed
    · rename_i evaluated
      rw [← Option.some.inj failed]
      exact faultsFirst_of_evaluate evaluated
  · rintro ⟨before, part, after, isParts, worth, faults⟩
    rw [failure?_eq_findSome?, List.findSome?_eq_some_iff]
    refine ⟨before, part, after, isParts, faults.failure?_eq, ?_⟩
    intro earlier member
    exact failure?_eq_none_iff.mpr (worth earlier member)

/-! ### Which expressions have a value -/

theorem Faults.not_isSound (faults : Faults store part failure) : ¬ part.IsSound store := by
  cases faults with
  | unknown unknown => exact unknown
  | unary inner refuses => exact fun sound => sound _ _ inner refuses
  | binary leftWorth rightWorth refuses => exact fun sound => sound _ _ rightWorth refuses
  | foreign => exact id

/-- In a part that is worth something, nothing is missing and nothing is refused. -/
theorem Worth.isSound (worth : Worth store part value) : part.IsSound store := by
  cases worth with
  | character known =>
      apply Classical.byContradiction
      intro unknown
      rw [Ledger.get?_eq_none_iff.mpr unknown] at known
      cases known
  | number => trivial
  | unary inner gives =>
      intro other message otherWorth refuses
      obtain rfl := Except.ok.inj (inner.evaluate_eq.symm.trans otherWorth.evaluate_eq)
      exact refuses.not_gives gives
  | binary leftWorth rightWorth gives =>
      intro other message otherWorth refuses
      obtain rfl := Except.ok.inj (rightWorth.evaluate_eq.symm.trans otherWorth.evaluate_eq)
      exact refuses.not_gives gives

theorem exists_worth_iff :
    (∃ value, Worth store expression value) ↔ ∀ part ∈ expression.parts, part.IsSound store := by
  constructor
  · rintro ⟨value, worth⟩ part member
    obtain ⟨number, partWorth⟩ := worth.parts_worth part member
    exact partWorth.isSound
  · intro sound
    rw [← failure?_eq_none_iff, Option.eq_none_iff_forall_ne_some]
    intro failure failed
    obtain ⟨before, part, after, isParts, _, faults⟩ := failure?_eq_some_iff.mp failed
    exact faults.not_isSound (sound part (by simp [isParts]))

end

end Expr

/-- Evaluation agrees with the laws of arithmetic, for every expression and whatever numbers the
characters have.  It gives the number that the expression is worth; it gives one exactly if in
no part of the expression anything is missing or refused; otherwise it reports the first fault,
the parts taken from left to right with operands in front of their operation; and a failed
evaluation leaves the house as it was, whatever was to be done with the number. -/
theorem evaluation_follows_arithmetic {σ : Type} (house : House σ) (expression : Expr) :
    (∀ value, expression.evaluate house.store = .ok value ↔
      expression.Worth house.store value) ∧
    ((∃ value, expression.evaluate house.store = .ok value) ↔
      ∀ part ∈ expression.parts, part.IsSound house.store) ∧
    (∀ failure,
      (∃ mishap, expression.evaluate house.store = .error mishap ∧ mishap.failure = failure) ↔
        Expr.FaultsFirst house.store expression.parts failure) ∧
    (∀ mishap use, expression.evaluate house.store = .error mishap →
      house.withValue (expression.evaluate house.store) use = (.error mishap, house)) := by
  refine ⟨fun value => Expr.evaluate_eq_ok_iff, ?_, ?_, ?_⟩
  · rw [← Expr.exists_worth_iff]
    exact exists_congr fun value => Expr.evaluate_eq_ok_iff
  · intro failure
    rw [← Expr.failure?_eq_some_iff, Expr.failure?]
    cases expression.evaluate house.store <;> simp
  · intro mishap use failed
    rw [failed, House.withValue]

/-- Of a quotient that cannot be and a character nobody knows, the one further left is
reported. -/
example :
    (Expr.binary .add (.binary .divide (.number 1 2) (.number 0 2) 2)
      (.character (some "Puck") 1) 1).failure? [] =
        some (.diagnosed ⟨"ArithmeticFault", "Division by zero", some 2⟩) := by decide

end Playhouse
