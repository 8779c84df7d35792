/-
Module: Playhouse.Script.Consulting
Purpose: Computations that look words up in a vocabulary and remember which
  classes they asked for.
Main exports: Consulting, Consulting.fail, Vocabulary.consult, Vocabulary.categoryOf
-/
import Playhouse.Script.Fault

namespace Playhouse

/-- An outcome together with the word classes asked for on the way to it, in the
order of asking.  The record never influences the outcome. -/
structure Consulting (α : Type) where
  outcome : Except ReadFault α
  consulted : List Category

namespace Consulting

variable {α β : Type}

/-- One computation after another; a failure ends both. -/
def andThen (first : Consulting α) (second : α → Consulting β) : Consulting β :=
  match first.outcome with
  | .error fault => ⟨.error fault, first.consulted⟩
  | .ok value =>
      let next := second value
      ⟨next.outcome, first.consulted ++ next.consulted⟩

instance : Monad Consulting where
  pure value := ⟨.ok value, []⟩
  bind := andThen

/-- Stop with a cause and its line. -/
def fail (cause : ParseCause) (line : Nat) : Consulting α :=
  ⟨.error (.parse ⟨cause, line⟩), []⟩

/-- A computation that asks for no words. -/
def ofExcept : Except ParseFault α → Consulting α
  | .ok value => pure value
  | .error fault => fail fault.cause fault.line

@[simp] theorem outcome_pure (value : α) :
    (pure value : Consulting α).outcome = .ok value := rfl

@[simp] theorem outcome_fail (cause : ParseCause) (line : Nat) :
    (fail cause line : Consulting α).outcome = .error (.parse ⟨cause, line⟩) := rfl

theorem outcome_bind (first : Consulting α) (second : α → Consulting β) :
    (first >>= second).outcome =
      match first.outcome with
      | .error fault => .error fault
      | .ok value => (second value).outcome := by
  show (andThen first second).outcome = _
  unfold andThen
  split <;> simp_all

/-- A sequence succeeds exactly when its parts do. -/
theorem outcome_bind_eq_ok (first : Consulting α) (second : α → Consulting β) (result : β) :
    (first >>= second).outcome = .ok result ↔
      ∃ value, first.outcome = .ok value ∧ (second value).outcome = .ok result := by
  rw [outcome_bind]
  cases first.outcome <;> simp

@[simp] theorem outcome_ofExcept (result : Except ParseFault α) :
    (ofExcept result).outcome = result.mapError .parse := by
  cases result <;> rfl

end Consulting

/-- The words of a class. -/
def Vocabulary.consult (vocabulary : Vocabulary) (category : Category) : Consulting WordList :=
  ⟨(vocabulary.list category).mapError .lexicon, [category]⟩

/-- The first of some classes to which a word belongs. -/
def Vocabulary.categoryOf (vocabulary : Vocabulary) (word : String) :
    List Category → Consulting (Option Category)
  | [] => pure none
  | category :: rest => do
      let list ← vocabulary.consult category
      if list.contains word then pure (some category)
      else vocabulary.categoryOf word rest

end Playhouse
