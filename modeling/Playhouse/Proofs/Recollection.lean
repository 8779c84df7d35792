/-
Module: Playhouse.Proofs.Recollection
Purpose: The stack of a character gives numbers back in the reverse order in which they were
  put away, whatever else happens in between, and it is empty exactly when all of them have
  been recalled.
Main exports: House.remembered, Action.Alters, House.Performs.alters, House.PerformsAll,
  House.PerformsAll.above, House.PerformsAll.length_remembered, Balanced,
  recalled_as_remembered
-/
import Mathlib.Data.List.Infix
import Playhouse.Proofs.StepLimit

namespace Playhouse

variable {σ : Type}

/-! ### Statements about a stack -/

/-- Whether an action puts a number on the stack of a character. -/
def Action.isPush (name : String) : Action → Bool
  | push other _ => other == name
  | _ => false

theorem Action.isPush_iff {name : String} {action : Action} :
    action.isPush name = true ↔ ∃ value, action = .push name value := by
  cases action <;> simp [Action.isPush]

/-- Whether an action takes a number from the stack of a character. -/
def Action.isPop (name : String) : Action → Bool
  | pop other => other == name
  | _ => false

/-- How often some statements put a number on the stack of a character. -/
def pushes (name : String) (statements : List Statement) : Nat :=
  statements.countP fun statement => statement.action.isPush name

/-- How often some statements take a number from the stack of a character. -/
def pops (name : String) (statements : List Statement) : Nat :=
  statements.countP fun statement => statement.action.isPop name

/-- Statements that take as many numbers from a character's stack as they put on it, and
never more than they have put on it so far. -/
structure Balanced (name : String) (statements : List Statement) : Prop where
  level : pops name statements = pushes name statements
  above : ∀ early, early <+: statements → pops name early ≤ pushes name early

instance (name : String) (statements : List Statement) : Decidable (Balanced name statements) :=
  decidable_of_iff
    (pops name statements = pushes name statements ∧
      ∀ early ∈ statements.inits, pops name early ≤ pushes name early)
    ⟨fun ⟨level, above⟩ =>
        ⟨level, fun early isEarly => above early ((List.mem_inits _ _).mpr isEarly)⟩,
      fun ⟨level, above⟩ =>
        ⟨level, fun early isEarly => above early ((List.mem_inits _ _).mp isEarly)⟩⟩

theorem pushes_cons (name : String) (statement : Statement) (rest : List Statement) :
    pushes name (statement :: rest) =
      pushes name rest + (statement.action.isPush name).toNat := by
  simp only [pushes, List.countP_cons]
  cases statement.action.isPush name <;> rfl

theorem pops_cons (name : String) (statement : Statement) (rest : List Statement) :
    pops name (statement :: rest) = pops name rest + (statement.action.isPop name).toNat := by
  simp only [pops, List.countP_cons]
  cases statement.action.isPop name <;> rfl

/-- All that an action can do to the stack of a character. -/
inductive Action.Alters (name : String) (action : Action) (numbers : List Int) :
    List Int → Prop where
  | pushed (number : Int) (isPush : action.isPush name = true)
      (noPop : action.isPop name = false) : Alters name action numbers (number :: numbers)
  | popped {number : Int} {others : List Int} (isPop : action.isPop name = true)
      (noPush : action.isPush name = false) (top : numbers = number :: others) :
      Alters name action numbers others
  | kept (noPush : action.isPush name = false) (noPop : action.isPop name = false) :
      Alters name action numbers numbers

/-- The height of a stack changes with every number put on it or taken from it. -/
theorem Action.Alters.length {name : String} {action : Action} {numbers after : List Int}
    (alters : action.Alters name numbers after) :
    after.length + (action.isPop name).toNat =
      numbers.length + (action.isPush name).toNat := by
  cases alters with
  | pushed number isPush noPop => simp [isPush, noPop]
  | popped isPop noPush top => simp [isPop, noPush, top]
  | kept noPush noPop => simp [noPush, noPop]

namespace House

/-! ### The stack of one character -/

/-- The numbers on the stack of a character, last one first.  A character without a stack
remembers nothing. -/
def remembered (house : House σ) (name : String) : List Int :=
  (house.memories.get? name).getD []

variable {provider : Provider σ} {sink : Sink σ} {labels : Labels} {house after : House σ}
  {statement : Statement} {target : Option Nat} {name : String}

theorem get?_of_remembered {number : Int} {others : List Int}
    (isTop : house.remembered name = number :: others) :
    house.memories.get? name = some (number :: others) := by
  unfold remembered at isTop
  cases found : house.memories.get? name with
  | none =>
      rw [found] at isTop
      cases isTop
  | some numbers =>
      rw [found] at isTop
      exact congrArg some isTop

/-- A change of one stack is seen at its owner and at nobody else. -/
theorem remembered_put (house : House σ) (owner : String) (numbers : List Int) :
    remembered { house with memories := house.memories.put owner numbers } name =
      if owner = name then numbers else house.remembered name := by
  simp only [remembered, Ledger.get?_put]
  split <;> rfl

/-- A character that appears again keeps its stack. -/
theorem remembered_declare (house : House σ) (other : String) :
    (house.declare other).remembered name = house.remembered name := by
  unfold declare
  split
  · rfl
  · rename_i unknown
    have none : house.memories.get? other = none := by simpa using unknown
    show remembered { house with memories := house.memories.put other [] } name = _
    rw [remembered_put]
    split
    · rename_i same
      rw [remembered, ← same, none]
      rfl
    · rfl

/-- Only putting away and recalling change a stack, and only that of the character they
speak of. -/
theorem Performs.alters (performs : Performs provider sink labels house statement target after) :
    statement.action.Alters name (house.remembered name) (after.remembered name) := by
  cases performs with
  | @push owner value number action evaluated =>
      rw [action]
      by_cases same : owner = name
      · subst same
        have isTop : remembered
            { house with
              memories :=
                house.memories.put owner (number :: (house.memories.get? owner).getD []) }
            owner = number :: house.remembered owner := by
          rw [remembered_put, if_pos rfl]
          rfl
        rw [isTop]
        exact .pushed number (beq_self_eq_true owner) rfl
      · rw [remembered_put, if_neg same]
        exact .kept (beq_eq_false_iff_ne.mpr same) rfl
  | @pop owner number others action remembered =>
      rw [action]
      show Action.Alters name (.pop owner) _
        (House.remembered { house with memories := house.memories.put owner others } name)
      by_cases same : owner = name
      · subst same
        rw [remembered_put, if_pos rfl]
        have isTop : house.remembered owner = number :: others := by
          rw [House.remembered, remembered]
          rfl
        exact .popped (beq_self_eq_true owner) rfl isTop
      · rw [remembered_put, if_neg same]
        exact .kept rfl (beq_eq_false_iff_ne.mpr same)
  | declare action =>
      rw [action, remembered_declare]
      exact .kept rfl rfl
  | scene action | scanNumber action | scanCharacter action | printNumber action
  | printCharacter action | assign action | jump action | jumpIf action | stay action
  | ask action | remark action =>
      rw [action]
      exact .kept rfl rfl

/-! ### One statement after another -/

/-- Some statements succeed one after the other, wherever their jumps may lead.  The count
of steps may be moved on before each of them, as a performance does. -/
inductive PerformsAll (provider : Provider σ) (sink : Sink σ) (labels : Labels) :
    House σ → List Statement → House σ → Prop where
  | none (house : House σ) : PerformsAll provider sink labels house [] house
  | next {house middle after : House σ} {steps : Nat} {statement : Statement}
      {target : Option Nat} {rest : List Statement}
      (executed : execute provider sink labels statement { house with steps := steps } =
        (.ok target, middle))
      (further : PerformsAll provider sink labels middle rest after) :
      PerformsAll provider sink labels house (statement :: rest) after

variable {statements : List Statement}

theorem alters_of_execute {steps : Nat}
    (executed : execute provider sink labels statement { house with steps := steps } =
      (.ok target, after)) :
    statement.action.Alters name (house.remembered name) (after.remembered name) :=
  (performs_of_execute executed).alters

/-- As many numbers are on a stack as were there before and were put on it, less those which
were taken from it. -/
theorem PerformsAll.length_remembered
    (performed : PerformsAll provider sink labels house statements after) (name : String) :
    (after.remembered name).length + pops name statements =
      (house.remembered name).length + pushes name statements := by
  induction performed with
  | none house => rfl
  | next executed further inductionHypothesis =>
      have altered : Action.Alters name _ _ _ := alters_of_execute executed
      have changed := altered.length
      rw [pops_cons, pushes_cons]
      omega

/-- What lies at the bottom of a stack stays there for as long as no more is taken than lay
above it or has been put on it. -/
theorem PerformsAll.above (performed : PerformsAll provider sink labels house statements after)
    {upper lower : List Int} (parts : house.remembered name = upper ++ lower)
    (never : ∀ early, early <+: statements →
      pops name early ≤ upper.length + pushes name early) :
    ∃ top, after.remembered name = top ++ lower ∧
      top.length + pops name statements = upper.length + pushes name statements := by
  induction performed generalizing upper with
  | none house => exact ⟨upper, parts, rfl⟩
  | @next house middle after steps statement target rest executed further inductionHypothesis =>
      have later early (isEarly : early <+: rest) :
          pops name early + (statement.action.isPop name).toNat ≤
            upper.length + (pushes name early + (statement.action.isPush name).toNat) := by
        rw [← pops_cons, ← pushes_cons]
        exact never _ (List.cons_prefix_cons.mpr ⟨rfl, isEarly⟩)
      have altered : statement.action.Alters name (house.remembered name)
          (middle.remembered name) := alters_of_execute executed
      rw [pops_cons, pushes_cons]
      generalize isNow : middle.remembered name = now at altered
      cases altered with
      | pushed number isPush noPop =>
          simp only [isPush, noPop, Bool.toNat_true, Bool.toNat_false] at later ⊢
          have nowParts : middle.remembered name = (number :: upper) ++ lower := by
            rw [isNow, parts, List.cons_append]
          have nowNever early (isEarly : early <+: rest) :
              pops name early ≤ (number :: upper).length + pushes name early := by
            have bound := later early isEarly
            rw [List.length_cons]
            omega
          obtain ⟨top, isTop, counted⟩ := inductionHypothesis nowParts nowNever
          rw [List.length_cons] at counted
          exact ⟨top, isTop, by omega⟩
      | @popped number others isPop noPush isTop =>
          simp only [isPop, noPush, Bool.toNat_true, Bool.toNat_false] at later ⊢
          have enough := later [] List.nil_prefix
          cases upper with
          | nil => cases enough
          | cons first remaining =>
              have nowParts : middle.remembered name = remaining ++ lower := by
                rw [isTop] at parts
                exact isNow.trans (List.cons.inj parts).2
              have nowNever early (isEarly : early <+: rest) :
                  pops name early ≤ remaining.length + pushes name early := by
                have bound := later early isEarly
                rw [List.length_cons] at bound
                omega
              obtain ⟨top, isTop, counted⟩ := inductionHypothesis nowParts nowNever
              refine ⟨top, isTop, ?_⟩
              rw [List.length_cons]
              omega
      | kept noPush noPop =>
          simp only [noPush, noPop, Bool.toNat_false] at later ⊢
          exact inductionHypothesis (isNow.trans parts) later

/-- Balanced statements leave a stack as it was. -/
theorem PerformsAll.remembered_eq
    (performed : PerformsAll provider sink labels house statements after)
    (balanced : Balanced name statements) :
    after.remembered name = house.remembered name := by
  have parts : house.remembered name = [] ++ house.remembered name := rfl
  have never early (isEarly : early <+: statements) :
      pops name early ≤ ([] : List Int).length + pushes name early := by
    rw [List.length_nil, Nat.zero_add]
    exact balanced.above early isEarly
  obtain ⟨top, isTop, counted⟩ := performed.above parts never
  have flat : top.length = 0 := by
    rw [balanced.level, List.length_nil] at counted
    omega
  rw [isTop, List.eq_nil_of_length_eq_zero flat, List.nil_append]

/-! ### Putting away and recalling -/

theorem execute_push {value : Expr} {number : Int}
    (evaluated : value.evaluate house.store = .ok number) (line : Nat) :
    execute provider sink labels ⟨.push name value, line⟩ house =
      (.ok none,
        { house with memories := house.memories.put name (number :: house.remembered name) }) := by
  simp only [execute, push, withValue, evaluated, proceed, remembered]

theorem execute_pop {number : Int} {others : List Int}
    (isTop : house.remembered name = number :: others) (line : Nat) :
    execute provider sink labels ⟨.pop name, line⟩ house =
      (.ok none,
        { house with memories := house.memories.put name others }.assign (some name) number) := by
  simp only [execute, pop, get?_of_remembered isTop, proceed]

theorem execute_pop_empty (empty : house.remembered name = []) (line : Nat) :
    execute provider sink labels ⟨.pop name, line⟩ house =
      (.error ⟨.emptyStack name, line⟩, house) := by
  have noTop number others : house.memories.get? name ≠ some (number :: others) := by
    intro found
    rw [remembered, found] at empty
    cases empty
  simp only [execute, pop, stop]

end House

/-! ### Performances -/

namespace Production

variable {production : Production σ} {stand last : Stand σ} {played : List Statement}
  {name : String} {line : Nat}

theorem Plays.performsAll (plays : production.Plays stand played last) :
    House.PerformsAll production.provider production.sink production.labels stand.house played last.house := by
  induction plays with
  | here stand => exact .none stand.house
  | step went plays inductionHypothesis =>
      exact .next (execute_of_step went).2.1 inductionHypothesis

/-- When a performance has begun to recall, it goes on if something is remembered and stops
if nothing is. -/
theorem Begins.step_pop (begins : production.Begins stand ⟨.pop name, line⟩) :
    (∃ house, production.step stand = .ended ⟨.error ⟨.emptyStack name, line⟩, house⟩) ↔
      stand.house.remembered name = [] := by
  have counted : stand.house.remembered name =
      House.remembered { stand.house with steps := stand.house.steps + 1 } name := rfl
  rw [step_of_within begins.here begins.within]
  cases isNow : stand.house.remembered name with
  | nil =>
      rw [House.execute_pop_empty (counted.symm.trans isNow)]
      simp [Progress.ofEffect]
  | cons number others =>
      rw [House.execute_pop (counted.symm.trans isNow)]
      simp [Progress.ofEffect]

/-- Since the start of a performance as many numbers have been put away as have been recalled
and are still remembered. -/
theorem Plays.length_remembered {printed : List Text.CodePoints} {input : σ}
    (plays : production.Plays (opening printed input) played stand) (name : String) :
    (stand.house.remembered name).length + pops name played = pushes name played := by
  have counted := plays.performsAll.length_remembered name
  have nothing : (opening printed input).house.remembered name = [] := rfl
  rwa [nothing, List.length_nil, Nat.zero_add] at counted

end Production

/-- **Whatever was put away is recalled.**  A character puts the value of an expression away,
then any statements succeed that are balanced on this character's stack, and then the
character recalls: this succeeds, gives the character the value that the expression had at
first, and leaves the stack as it was before.  And when a performance comes to recall, it
fails for want of something to recall exactly if the character has recalled as often as it
has put something away since the start. -/
theorem recalled_as_remembered (provider : Provider σ) (sink : Sink σ) :
    (∀ (labels : Labels) (house : House σ) name (value : Expr) number line,
      value.evaluate house.store = .ok number →
      ∃ reminded,
        House.execute provider sink labels ⟨.push name value, line⟩ house = (.ok none, reminded) ∧
        ∀ between later recallLine,
          House.PerformsAll provider sink labels reminded between later → Balanced name between →
          ∃ after,
            House.execute provider sink labels ⟨.pop name, recallLine⟩ later = (.ok none, after) ∧
            after.store.get? (some name) = some number ∧
            after.memories.get? name = some (house.remembered name)) ∧
    (∀ limit statements printed input played stand name line,
      let production := Production.ofStatements provider limit statements sink
      production.Plays (Production.opening printed input) played stand →
      production.Begins stand ⟨.pop name, line⟩ →
      ((∃ house, production.step stand = .ended ⟨.error ⟨.emptyStack name, line⟩, house⟩) ↔
        pops name played = pushes name played)) := by
  refine ⟨?_, ?_⟩
  · intro labels house name value number line evaluated
    refine ⟨_, House.execute_push evaluated line, ?_⟩
    intro between later recallLine performed balanced
    have isTop : later.remembered name = number :: house.remembered name := by
      rw [performed.remembered_eq balanced, House.remembered_put, if_pos rfl]
    refine ⟨_, House.execute_pop isTop recallLine, ?_, ?_⟩
    · simp only [House.assign, Ledger.get?_put, if_true]
    · simp only [House.assign, Ledger.get?_put, if_true]
  · intro limit statements printed input played stand name line production plays begins
    have counted := plays.length_remembered name
    rw [begins.step_pop]
    constructor
    · intro empty
      rwa [empty, List.length_nil, Nat.zero_add] at counted
    · intro level
      apply List.eq_nil_of_length_eq_zero
      omega

/-- What Ajax and Puck do between two recollections: Ajax is declared anew, puts a number away
and recalls it, Puck puts one away, and Ajax hears another number. -/
def interlude : List Statement :=
  [⟨.declare "Ajax", 2⟩, ⟨.push "Ajax" (.number 8 3), 3⟩, ⟨.push "Puck" (.number 9 4), 4⟩,
    ⟨.pop "Ajax", 5⟩, ⟨.scanNumber "Ajax", 6⟩]

/-- Ajax remembers 7 throughout the interlude and recalls it, and nothing after it. -/
def reminiscence : List Statement :=
  ⟨.push "Ajax" (.number 7 1), 1⟩ :: interlude ++ [⟨.pop "Ajax", 7⟩, ⟨.pop "Ajax", 8⟩]

/-- The first recollection of the reminiscence succeeds and the second one fails. -/
theorem recalled_as_remembered_reminiscence :
    let production := Production.ofStatements Prompter.provider none reminiscence
    let house : House Prompter := House.opening [] ⟨[5], []⟩
    Balanced "Ajax" interlude ∧
    (∃ reminded later after,
      House.execute Prompter.provider .text production.labels ⟨.push "Ajax" (.number 7 1), 1⟩ house =
        (.ok none, reminded) ∧
      House.PerformsAll Prompter.provider .text production.labels reminded interlude later ∧
      later.store.get? (some "Ajax") = some 5 ∧
      House.execute Prompter.provider .text production.labels ⟨.pop "Ajax", 7⟩ later =
        (.ok none, after) ∧
      after.store.get? (some "Ajax") = some 7 ∧ after.memories.get? "Ajax" = some []) ∧
    ∃ stand last,
      production.Plays (Production.opening [] ⟨[5], []⟩) (reminiscence.take 7) stand ∧
      production.step stand = .ended ⟨.error ⟨.emptyStack "Ajax", 8⟩, last⟩ := by
  intro production house
  have discipline := recalled_as_remembered Prompter.provider .text
  have balanced : Balanced "Ajax" interlude := by decide +kernel
  refine ⟨balanced, ?_, ?_⟩
  · obtain ⟨reminded, reminding, recalls⟩ :=
      discipline.1 production.labels house "Ajax" (.number 7 1) 7 1 rfl
    cases reminding
    have plays : production.Plays ⟨1, { house with memories := [("Ajax", [7])] }⟩ interlude _ :=
      .step rfl (.step rfl (.step rfl (.step rfl (.step rfl (.here _)))))
    obtain ⟨after, recalling, number, numbers⟩ := recalls interlude _ 7 plays.performsAll balanced
    exact ⟨_, _, after, rfl, plays.performsAll, rfl, recalling, number, numbers⟩
  · have plays : production.Plays (Production.opening [] ⟨[5], []⟩) (reminiscence.take 7) _ :=
      .step rfl (.step rfl (.step rfl (.step rfl (.step rfl (.step rfl (.step rfl (.here _)))))))
    have emptied := discipline.2 none reminiscence [] ⟨[5], []⟩ _ _ "Ajax" 8 plays
      ⟨rfl, fun _ unlimited => nomatch unlimited⟩
    obtain ⟨last, ended⟩ := emptied.mpr (by decide +kernel)
    exact ⟨_, last, plays, ended⟩

end Playhouse
