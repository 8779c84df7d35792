/-
Module: Playhouse.Performance.Run
Purpose: Performing a play from its first statement to its end.
Main exports: Stand, Ending, Progress, Production, Production.step, Production.runFrom,
  Production.followFrom, Production.run
-/
import Playhouse.Performance.House

namespace Playhouse

open Text

/-!
A performance walks through the statements one after the other, and jumps move
it elsewhere.  A limit on the number of statements may be set; without one a
play may go on for ever.  The functions below therefore take a measure of
patience, and give no ending when it runs out.  More patience never changes an
ending.
-/

/-- A performance under way: the number of the statement to come, and the house. -/
structure Stand (σ : Type) where
  position : Nat
  house : House σ

/-- How a performance ends: with a mishap or well. -/
structure Ending (σ : Type) where
  outcome : Except Mishap Unit
  house : House σ

/-- What one step leads to: the end, or a statement carried out, the jump it made
and the next stand. -/
inductive Progress (σ : Type) where
  | ended (ending : Ending σ)
  | went (statement : Statement) (target : Option Nat) (next : Stand σ)

/-- What is performed, and how: the statements, where their scenes begin, the
source of input, the greatest number of statements to begin, and who takes the output. -/
structure Production (σ : Type) where
  statements : Array Statement
  labels : Labels
  provider : Provider σ
  limit : Option Int
  sink : Sink σ

/-- The production of some statements.  Its output is collected as text, unless somebody
else takes it. -/
def Production.ofStatements {σ : Type} (provider : Provider σ) (limit : Option Int)
    (statements : List Statement) (sink : Sink σ := .text) : Production σ :=
  ⟨statements.toArray, Labels.ofStatements statements, provider, limit, sink⟩

namespace Production

variable {σ : Type}

/-- Take one step.  The count of steps includes a statement that the limit keeps
from being carried out. -/
def step (production : Production σ) (stand : Stand σ) : Progress σ :=
  match production.statements[stand.position]? with
  | none => .ended ⟨.ok (), stand.house⟩
  | some statement =>
      let house := { stand.house with steps := stand.house.steps + 1 }
      match production.limit.filter (· < house.steps) with
      | some limit => .ended ⟨.error ⟨.stepLimit limit, statement.line⟩, house⟩
      | none =>
          match House.execute production.provider production.sink production.labels statement
              house with
          | (.error mishap, after) => .ended ⟨.error mishap, after⟩
          | (.ok target, after) =>
              .went statement target ⟨target.getD (stand.position + 1), after⟩

/-- Perform from a stand, with some patience. -/
def runFrom (production : Production σ) : Nat → Stand σ → Option (Ending σ)
  | 0, _ => none
  | patience + 1, stand =>
      match production.step stand with
      | .ended ending => some ending
      | .went _ _ next => production.runFrom patience next

/-- Perform from a stand and gather something from every statement carried out:
the statement, its jump and the house after it. -/
def followFrom {ω : Type} (production : Production σ)
    (gather : ω → Statement → Option Nat → House σ → ω) :
    Nat → ω → Stand σ → ω × Option (Ending σ)
  | 0, gathered, _ => (gathered, none)
  | patience + 1, gathered, stand =>
      match production.step stand with
      | .ended ending => (gathered, some ending)
      | .went statement target next =>
          production.followFrom gather patience (gather gathered statement target next.house) next

/-- Gathering does not change the ending. -/
theorem followFrom_snd {ω : Type} (production : Production σ)
    (gather : ω → Statement → Option Nat → House σ → ω) (patience : Nat) (gathered : ω)
    (stand : Stand σ) :
    (production.followFrom gather patience gathered stand).2 =
      production.runFrom patience stand := by
  induction patience generalizing gathered stand with
  | zero => rfl
  | succ patience inductionHypothesis =>
      unfold followFrom runFrom
      split
      · rfl
      · exact inductionHypothesis _ _

/-- More patience never changes an ending. -/
theorem runFrom_mono (production : Production σ) {patience : Nat} {stand : Stand σ}
    {ending : Ending σ} (ended : production.runFrom patience stand = some ending) (more : Nat) :
    production.runFrom (patience + more) stand = some ending := by
  induction patience generalizing stand with
  | zero => simp [runFrom] at ended
  | succ patience inductionHypothesis =>
      rw [Nat.add_right_comm]
      unfold runFrom at ended ⊢
      split at ended
      · exact ended
      · exact inductionHypothesis ended

/-- The stand before the first statement. -/
def opening (printed : List CodePoints) (input : σ) : Stand σ :=
  ⟨0, House.opening printed input⟩

/-- Perform from the first statement, with nothing printed before. -/
def run (production : Production σ) (patience : Nat) (input : σ) : Option (Ending σ) :=
  production.runFrom patience (opening [] input)

end Production

end Playhouse
