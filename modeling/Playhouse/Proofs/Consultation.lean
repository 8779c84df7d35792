/-
Module: Playhouse.Proofs.Consultation
Purpose: What a computation with a vocabulary gives when it succeeds, and how it
  fails otherwise.
Main exports: Consulting.mapError_ok, Consulting.Ensures, Consulting.ensures_bind,
  Consulting.ensures_ofExcept
-/
import Playhouse.Script.Consulting

namespace Playhouse.Consulting

/-!
A reader of phrases either gives a value or stops with a fault.  `Ensures` speaks
of both at once, so that one walk through a reader says what it accepts and how
it refuses.
-/

variable {α β : Type}

/-! ### Results with other faults -/

section

variable {ε ζ : Type} (rename : ε → ζ)

@[simp] theorem mapError_ok (value : α) :
    (Except.ok value : Except ε α).mapError rename = .ok value := rfl

@[simp] theorem mapError_error (fault : ε) :
    (Except.error fault : Except ε α).mapError rename = .error (rename fault) := rfl

theorem eq_ok_of_toOption {result : Except ε α} {value : α}
    (given : result.toOption = some value) : result = .ok value := by
  cases result with
  | ok other => exact congrArg Except.ok (Option.some.inj given)
  | error fault => cases given

end

/-! ### Both ends of a computation -/

/-- A computation whose value, if it has one, is `good`, and whose fault, if it
fails, is `bad`. -/
structure Ensures (good : α → Prop) (bad : ReadFault → Prop) (computation : Consulting α) :
    Prop where
  ok : ∀ {value : α}, computation.outcome = .ok value → good value
  error : ∀ {fault : ReadFault}, computation.outcome = .error fault → bad fault

variable {good : α → Prop} {bad : ReadFault → Prop}

theorem ensures_of_ok {computation : Consulting α} {value : α}
    (succeeded : computation.outcome = .ok value) (isGood : good value) :
    Ensures good bad computation where
  ok other := by
    rw [succeeded] at other
    cases other
    exact isGood
  error failed := by
    rw [succeeded] at failed
    cases failed

theorem ensures_of_error {computation : Consulting α} {fault : ReadFault}
    (failed : computation.outcome = .error fault) (isBad : bad fault) :
    Ensures good bad computation where
  ok succeeded := by
    rw [failed] at succeeded
    cases succeeded
  error other := by
    rw [failed] at other
    cases other
    exact isBad

theorem ensures_pure {value : α} (isGood : good value) :
    Ensures good bad (pure value) :=
  ensures_of_ok (outcome_pure value) isGood

theorem ensures_fail {cause : ParseCause} {line : Nat} (isBad : bad (.parse ⟨cause, line⟩)) :
    Ensures good bad (fail cause line) :=
  ensures_of_error (outcome_fail cause line) isBad

/-- A sequence inherits the faults of both its parts. -/
theorem ensures_bind {middle : α → Prop} {good : β → Prop} {first : Consulting α}
    {second : α → Consulting β} (firstEnsured : Ensures middle bad first)
    (secondEnsured : ∀ value, middle value → Ensures good bad (second value)) :
    Ensures good bad (first >>= second) := by
  have sequence := outcome_bind first second
  cases firstOutcome : first.outcome with
  | error fault =>
      rw [firstOutcome] at sequence
      exact ensures_of_error sequence (firstEnsured.error firstOutcome)
  | ok value =>
      rw [firstOutcome] at sequence
      have ensured := secondEnsured value (firstEnsured.ok firstOutcome)
      constructor
      · intro result succeeded
        exact ensured.ok (sequence.symm.trans succeeded)
      · intro fault failed
        exact ensured.error (sequence.symm.trans failed)

theorem ensures_ofExcept {result : Except ParseFault α}
    (isGood : ∀ value, result = .ok value → good value)
    (isBad : ∀ fault, result = .error fault → bad (.parse fault)) :
    Ensures good bad (ofExcept result) := by
  cases result with
  | ok value => exact ensures_pure (isGood value rfl)
  | error fault => exact ensures_fail (isBad fault rfl)

/-- A sequence without words inherits the faults of both its parts. -/
theorem ensures_ofExcept_bind {middle : α → Prop} {good : β → Prop} {first : Except ParseFault α}
    {second : α → Except ParseFault β} (firstEnsured : Ensures middle bad (ofExcept first))
    (secondEnsured : ∀ value, middle value → Ensures good bad (ofExcept (second value))) :
    Ensures good bad (ofExcept (first >>= second)) := by
  cases first with
  | ok value => exact secondEnsured value (firstEnsured.ok rfl)
  | error fault => exact ensures_fail (firstEnsured.error rfl)

end Playhouse.Consulting
