/-
Module: Playhouse.Performance.Limit
Purpose: Performances with a limit always come to an end.
Main exports: House.execute_steps, Production.runFrom_isSome, Production.runWithin
-/
import Playhouse.Performance.Run

namespace Playhouse

variable {σ : Type}

namespace House

/-- Using a value leaves the count of steps alone if the use does. -/
theorem withValue_steps {house : House σ} {value : Except Mishap Int} {use : Int → Effect σ}
    (kept : ∀ number, (use number).2.steps = house.steps) :
    (house.withValue value use).2.steps = house.steps := by
  unfold withValue
  split
  · exact kept _
  · rfl

/-- A jump leaves the count of steps alone. -/
theorem jump_steps (labels : Labels) (house : House σ) (tag : String) (line : Nat) :
    (jump labels house tag line).2.steps = house.steps := by
  unfold jump
  split <;> rfl

/-- Handing a piece over leaves the count of steps alone. -/
theorem hand_steps (sink : Sink σ) (house : House σ) (piece : Piece) (line : Nat) :
    (hand sink house piece line).2.steps = house.steps := by
  unfold hand
  split <;> rfl

/-- Carrying out a statement leaves the count of steps alone. -/
theorem execute_steps (provider : Provider σ) (sink : Sink σ) (labels : Labels)
    (statement : Statement) (house : House σ) :
    (execute provider sink labels statement house).2.steps = house.steps := by
  unfold execute
  split
  case h_3 =>
    unfold scanNumber
    split <;> rfl
  case h_4 =>
    unfold scanCharacter
    split <;> rfl
  case h_5 =>
    refine withValue_steps fun value => ?_
    split
    · exact hand_steps sink house _ _
    · rfl
  case h_6 => exact withValue_steps fun value => hand_steps sink house _ _
  case h_7 => exact withValue_steps fun value => rfl
  case h_8 =>
    unfold pop
    split <;> rfl
  case h_9 => exact withValue_steps fun value => rfl
  case h_10 => exact jump_steps labels house _ _
  case h_11 =>
    refine withValue_steps fun lhs => withValue_steps fun rhs => ?_
    split
    · exact jump_steps labels house _ _
    · rfl
  all_goals rfl

end House

namespace Production

/-- A step that goes on counts one statement more, and the limit still holds. -/
theorem step_went {production : Production σ} {stand next : Stand σ} {statement : Statement}
    {target : Option Nat} (went : production.step stand = .went statement target next) :
    next.house.steps = stand.house.steps + 1 ∧
      ∀ limit, production.limit = some limit → (next.house.steps : Int) ≤ limit := by
  unfold step at went
  split at went
  · cases went
  · dsimp only at went
    split at went
    · cases went
    · rename_i within
      split at went
      · cases went
      · rename_i after executed
        cases went
        have kept := House.execute_steps production.provider production.sink production.labels
          statement
          { stand.house with steps := stand.house.steps + 1 }
        rw [executed] at kept
        refine ⟨kept, fun limit limited => ?_⟩
        rw [limited, Option.filter_eq_none_iff] at within
        have bound := within limit rfl
        simp only [decide_eq_true_eq, Int.not_lt] at bound
        rw [kept]
        exact bound

/-- With enough patience a performance with a limit has an ending. -/
theorem runFrom_isSome {production : Production σ} {limit : Int}
    (limited : production.limit = some limit) (patience : Nat) (stand : Stand σ)
    (enough : limit.toNat < patience + stand.house.steps) (patient : 0 < patience) :
    (production.runFrom patience stand).isSome := by
  induction patience generalizing stand with
  | zero => omega
  | succ patience inductionHypothesis =>
      unfold runFrom
      split
      · rfl
      · rename_i statement target next went
        obtain ⟨counted, within⟩ := step_went went
        have bound := within limit limited
        exact inductionHypothesis next (by omega) (by omega)

/-- Perform with a limit, from the first statement to the end. -/
def runWithin (production : Production σ) (limit : Int) (limited : production.limit = some limit)
    (input : σ) : Ending σ :=
  (production.run (limit.toNat + 1) input).get
    (runFrom_isSome limited _ _ (by omega) (by omega))

end Production

end Playhouse
