/-
Module: Playhouse.Proofs.Atomicity
Purpose: A statement that fails changes nothing that can be seen, one that succeeds touches
  nobody but its subject, and a performance that fails ends in the house that its last
  completed statement left behind.
Main exports: Action.subject?, Action.prints, House.Unchanged, House.Spares,
  House.Fails.unchanged, House.Performs.spares, House.Performs.adds, Production.lastHouse,
  Production.unchanged_of_runFrom, statements_atomic_and_local
-/
import Playhouse.Proofs.Stage
import Playhouse.Proofs.StepLimit

namespace Playhouse

open Text

/-!
What can be seen of a performance are the characters' numbers, their stacks and what
has been printed.  The table of scenes belongs to the production and is no part of the
house, so that no statement gets to change it.  The input is another matter: a number
that cannot be read is used up.
-/

/-- The character whom a statement is about: the one whom it declares, or at whom it
is aimed. -/
def Action.subject? : Action → Option (Option String)
  | declare name => some (some name)
  | action => action.target?

/-- Whether a statement is there to print something. -/
def Action.prints : Action → Bool
  | printNumber _ | printCharacter _ => true
  | _ => false

variable {σ : Type}

namespace House

/-- Nothing that can be seen has changed. -/
structure Unchanged (house after : House σ) : Prop where
  store : after.store = house.store
  memories : after.memories = house.memories
  printed : after.printed = house.printed

/-- Every character but the subject, if there is one, has kept number and stack. -/
structure Spares (house : House σ) (subject : Option (Option String)) (after : House σ) :
    Prop where
  cells : ∀ name, subject ≠ some name → after.store.get? name = house.store.get? name
  memories : ∀ name, subject ≠ some (some name) →
    after.memories.get? name = house.memories.get? name

variable {provider : Provider σ} {sink : Sink σ} {labels : Labels} {house after : House σ}
  {statement : Statement} {target : Option Nat} {mishap : Mishap}
  {subject : Option (Option String)}

theorem Unchanged.trans {last : House σ} (first : house.Unchanged after)
    (second : after.Unchanged last) : house.Unchanged last where
  store := second.store.trans first.store
  memories := second.memories.trans first.memories
  printed := second.printed.trans first.printed

/-! ### Statements that fail -/

/-- A statement fails before it has changed anything. -/
theorem Fails.unchanged (fails : Fails provider sink labels house statement mishap after) :
    house.Unchanged after := by
  cases fails <;> exact ⟨rfl, rfl, rfl⟩

/-! ### Statements that succeed -/

/-- Whoever has the same numbers and stacks spares everybody. -/
theorem spares_of_eq (sameStore : after.store = house.store)
    (sameMemories : after.memories = house.memories) : house.Spares subject after where
  cells _ _ := by rw [sameStore]
  memories _ _ := by rw [sameMemories]

/-- Giving the subject a number spares the others. -/
theorem Spares.assign {name : Option String} (spares : house.Spares (some name) after)
    (value : Int) : house.Spares (some name) (after.assign name value) where
  cells other isOther := by
    have distinct : name ≠ other := fun same => isOther (congrArg some same)
    simp only [House.assign, Ledger.get?_put, if_neg distinct]
    exact spares.cells other isOther
  memories := spares.memories

/-- Changing the subject's stack spares the others. -/
theorem spares_withStack (house : House σ) (name : String) (numbers : List Int) :
    house.Spares (some (some name))
      { house with memories := house.memories.put name numbers } where
  cells _ _ := rfl
  memories other isOther := by
    have distinct : name ≠ other := fun same => isOther (by rw [same])
    rw [Ledger.get?_put, if_neg distinct]

/-- Declaring the subject spares the others, whether or not it has a stack already. -/
theorem spares_declare (house : House σ) (name : String) :
    house.Spares (some (some name)) (house.declare name) := by
  by_cases known : (house.memories.get? name).isSome
  · simp only [House.declare, known, if_true]
    exact (spares_of_eq rfl rfl).assign 0
  · simp only [House.declare, known]
    exact (house.spares_withStack name []).assign 0

/-- A statement touches nobody but its subject. -/
theorem Performs.spares (performs : Performs provider sink labels house statement target after) :
    house.Spares statement.action.subject? after := by
  cases performs with
  | declare action =>
      rw [action]
      exact house.spares_declare _
  | scanNumber action | scanCharacter action | assign action =>
      rw [action]
      apply Spares.assign
      exact spares_of_eq rfl rfl
  | push action =>
      rw [action]
      exact house.spares_withStack _ _
  | pop action =>
      rw [action]
      exact (house.spares_withStack _ _).assign _
  | scene | printNumber | printCharacter | jump | jumpIf | stay | ask | remark =>
      exact spares_of_eq rfl rfl

/-- A statement that is there to print adds one piece, and the others add none. -/
theorem Performs.adds (performs : Performs provider sink labels house statement target after) :
    ∃ pieces, after.printed = pieces ++ house.printed ∧
      pieces.length = statement.action.prints.toNat := by
  cases performs with
  | printNumber action | printCharacter action =>
      rw [action]
      exact ⟨[_], rfl, rfl⟩
  | scene action | declare action | scanNumber action | scanCharacter action | push action
  | pop action | assign action | jump action | jumpIf action | stay action | ask action
  | remark action =>
      rw [action]
      exact ⟨[], rfl, rfl⟩

end House

/-! ### Performances that fail -/

namespace Production

variable {production : Production σ} {stand : Stand σ} {ending : Ending σ} {patience : Nat}

/-- The house that the last completed statement of a performance leaves behind, which is
the first house if there is no such statement. -/
def lastHouse (production : Production σ) (patience : Nat) (start : Stand σ) : House σ :=
  (production.followFrom (fun _ _ _ after => after) patience start.house start).1

/-- The step that ends a performance changes nothing: neither a statement that fails nor
one that the limit forbids leaves a trace. -/
theorem Ends.unchanged (ends : production.Ends stand ending) :
    stand.house.Unchanged ending.house := by
  cases ends with
  | finished past => exact ⟨rfl, rfl, rfl⟩
  | limited here isLimit exceeded => exact ⟨rfl, rfl, rfl⟩
  | failed here within fails =>
      have counted : stand.house.Unchanged { stand.house with steps := stand.house.steps + 1 } :=
        ⟨rfl, rfl, rfl⟩
      exact counted.trans fails.unchanged

/-- A performance ends with what its last completed statement left behind. -/
theorem unchanged_of_runFrom (ended : production.runFrom patience stand = some ending) :
    (production.lastHouse patience stand).Unchanged ending.house := by
  induction patience, stand, ended using runInduction with
  | ended patience stand stepped =>
      rw [lastHouse, followFrom, stepped]
      exact (ends_of_step stepped).unchanged
  | went patience stand statement target next stepped further inductionHypothesis =>
      rw [lastHouse, followFrom, stepped]
      exact inductionHypothesis

end Production

/-- Statements are atomic and local.  If one fails, then numbers, stacks and output are
as before, whoever takes the output.  If it succeeds, then nobody but its subject has another number or stack, and
nothing is printed unless it is there to print.  A performance that ends, be it with a
mishap, has therefore come to what its last completed statement left behind. -/
theorem statements_atomic_and_local (provider : Provider σ) (sink : Sink σ) :
    (∀ labels statement (house after : House σ) mishap,
      House.execute provider sink labels statement house = (.error mishap, after) →
      house.Unchanged after) ∧
    (∀ labels statement (house after : House σ) target,
      House.execute provider sink labels statement house = (.ok target, after) →
      house.Spares statement.action.subject? after ∧
      ∃ pieces, after.printed = pieces ++ house.printed ∧
        pieces.length = statement.action.prints.toNat) ∧
    (∀ limit statements patience (start : Stand σ) ending,
      (Production.ofStatements provider limit statements sink).runFrom patience start = some ending →
      ((Production.ofStatements provider limit statements sink).lastHouse patience start).Unchanged
        ending.house) := by
  refine ⟨?_, ?_, ?_⟩
  · intro labels statement house after mishap failed
    exact (House.fails_of_execute failed).unchanged
  · intro labels statement house after target executed
    have performs := House.performs_of_execute executed
    exact ⟨performs.spares, performs.adds⟩
  · intro limit statements patience start ending ended
    exact Production.unchanged_of_runFrom ended

/-- Ajax says his number and remembers what he never put away. -/
def forgetful : List Statement :=
  [⟨.declare "Ajax", 1⟩, ⟨.printCharacter "Ajax", 2⟩, ⟨.pop "Ajax", 3⟩]

/-- His performance fails at the third statement and ends as the second one left it. -/
theorem statements_atomic_and_local_forgetful :
    ∃ ending, (Production.ofStatements Prompter.provider none forgetful).run 3 ⟨[], []⟩ =
        some ending ∧
      ending.outcome = .error ⟨.emptyStack "Ajax", 3⟩ ∧
      ending.house.store = [(some "Ajax", 0)] ∧ ending.house.printed = [[0]] := by
  refine ⟨_, rfl, rfl, ?_⟩
  have unchanged := (statements_atomic_and_local Prompter.provider .text).2.2 none forgetful 3
    (Production.opening [] ⟨[], []⟩) _ rfl
  exact ⟨unchanged.store, unchanged.printed⟩

end Playhouse
