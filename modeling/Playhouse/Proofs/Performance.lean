/-
Module: Playhouse.Proofs.Performance
Purpose: All that one statement, one step and a whole performance can do, as
  relations with one rule for each kind of statement.
Main exports: cause_of_evaluate, House.Performs, House.Fails, House.performs_of_execute,
  House.fails_of_execute, House.Performs.mem_keys, House.Performs.jumps,
  Production.Goes, Production.Ends, Production.Reaches, Production.reaches_of_run,
  Production.Plays, Production.Begins
-/
import Playhouse.Performance.Run
import Playhouse.Review

namespace Playhouse

open Text

/-! ### Tables seen through their keys -/

namespace Ledger

variable {κ ν : Type} [DecidableEq κ]

theorem get?_eq_none_iff {ledger : Ledger κ ν} {key : κ} :
    ledger.get? key = none ↔ key ∉ ledger.keys := by
  induction ledger with
  | nil => simp [get?, keys]
  | cons entry rest inductionHypothesis =>
      obtain ⟨entered, value⟩ := entry
      by_cases here : entered = key
      · simp [get?, keys, here]
      · simp only [get?, here, if_false, inductionHypothesis]
        simp [keys, Ne.symm here]

theorem mem_keys_put {ledger : Ledger κ ν} {key other : κ} {value : ν} :
    other ∈ (ledger.put key value).keys ↔ other = key ∨ other ∈ ledger.keys := by
  rw [keys_put]
  split
  · rename_i known
    constructor
    · exact Or.inr
    · rintro (rfl | isKey)
      · exact known
      · exact isKey
  · rw [List.mem_append, List.mem_singleton, or_comm]

end Ledger

/-! ### Expressions without a value -/

/-- Whether arithmetic alone may be the cause of a mishap.  A number too long for
the message counts as well. -/
def MishapCause.isArithmetic : MishapCause → Bool
  | divisionByZero | moduloByZero | negativeRoot _ | tooLarge _ _ | digitLimit => true
  | _ => false

/-- Whether something without a value stands in an expression. -/
def Expr.hasForeign : Expr → Bool
  | foreign _ _ => true
  | unary _ operand _ => operand.hasForeign
  | binary _ lhs rhs _ => lhs.hasForeign || rhs.hasForeign
  | character _ _ | number _ _ => false

/-- A cause that quotes a number is that cause or the length of the number. -/
theorem quoting_cases (value : Int) (cause : MishapCause) :
    MishapCause.quoting value cause = cause ∨ MishapCause.quoting value cause = .digitLimit := by
  unfold MishapCause.quoting
  split
  · exact Or.inl rfl
  · exact Or.inr rfl

theorem isArithmetic_of_binary {operation : BinaryOperation} {lhs rhs : Int} {line : Nat}
    {mishap : Mishap} (failed : operation.apply lhs rhs line = .error mishap) :
    mishap.cause.isArithmetic := by
  unfold BinaryOperation.apply at failed
  split at failed
  case h_4 =>
    split at failed
    · cases failed
      rfl
    · cases failed
  case h_5 =>
    split at failed
    · cases failed
      rfl
    · cases failed
  all_goals cases failed

theorem isArithmetic_of_boundedPower {operation : UnaryOperation} {value power : Int}
    {line : Nat} {mishap : Mishap}
    (failed : boundedPower operation value power line = .error mishap) :
    mishap.cause.isArithmetic := by
  unfold boundedPower at failed
  split at failed
  · obtain rfl := Except.error.inj failed
    rcases quoting_cases value (.tooLarge operation value) with quoted | unwritten
    · simp only [quoted, MishapCause.isArithmetic]
    · simp only [unwritten, MishapCause.isArithmetic]
  · cases failed

theorem isArithmetic_of_unary {operation : UnaryOperation} {value : Int} {line : Nat}
    {mishap : Mishap} (failed : operation.apply value line = .error mishap) :
    mishap.cause.isArithmetic := by
  cases operation with
  | twice => cases failed
  | square => exact isArithmetic_of_boundedPower failed
  | cube => exact isArithmetic_of_boundedPower failed
  | squareRoot =>
      unfold UnaryOperation.apply at failed
      dsimp only at failed
      split at failed
      · obtain rfl := Except.error.inj failed
        rcases quoting_cases value (.negativeRoot value) with quoted | unwritten
        · simp only [quoted, MishapCause.isArithmetic]
        · simp only [unwritten, MishapCause.isArithmetic]
      · cases failed

theorem get?_of_read {store : Store} {name : Option String} {line : Nat} {value : Int}
    (read : store.read name line = .ok value) : store.get? name = some value := by
  unfold Store.read at read
  split at read
  · cases read
    assumption
  · cases read

theorem unknown_of_read {store : Store} {name : Option String} {line : Nat} {mishap : Mishap}
    (unread : store.read name line = .error mishap) :
    store.get? name = none ∧ mishap = ⟨.undeclared name, line⟩ := by
  unfold Store.read at unread
  split at unread
  · cases unread
  · cases unread
    exact ⟨by assumption, rfl⟩

/-- An expression has no value because of its arithmetic, because of a character
in it without a number, or because of something in it without a value. -/
theorem cause_of_evaluate {store : Store} {expression : Expr} {mishap : Mishap}
    (failed : expression.evaluate store = .error mishap) :
    mishap.cause.isArithmetic ∨
      (∃ name ∈ expression.names, mishap.cause = .undeclared name ∧ name ∉ store.keys) ∨
      ((∃ message, mishap.cause = .noValue message) ∧ expression.hasForeign) := by
  induction expression generalizing mishap with
  | character name line =>
      obtain ⟨unknown, rfl⟩ := unknown_of_read failed
      exact Or.inr (Or.inl ⟨name, List.mem_singleton_self name, rfl,
        Ledger.get?_eq_none_iff.mp unknown⟩)
  | number value line => cases failed
  | unary operation operand line inductionHypothesis =>
      cases evaluated : operand.evaluate store with
      | error inner =>
          rw [Expr.evaluate, evaluated] at failed
          cases failed
          exact inductionHypothesis evaluated
      | ok value =>
          rw [Expr.evaluate, evaluated] at failed
          exact Or.inl (isArithmetic_of_unary failed)
  | binary operation lhs rhs line leftHypothesis rightHypothesis =>
      cases left : lhs.evaluate store with
      | error inner =>
          rw [Expr.evaluate, left] at failed
          cases failed
          rcases leftHypothesis left with arithmetic | ⟨name, named, unknown⟩ | ⟨noValue, foreign⟩
          · exact Or.inl arithmetic
          · exact Or.inr (Or.inl ⟨name, List.mem_append_left _ named, unknown⟩)
          · exact Or.inr (Or.inr ⟨noValue, by simp [Expr.hasForeign, foreign]⟩)
      | ok leftValue =>
          cases right : rhs.evaluate store with
          | error inner =>
              rw [Expr.evaluate, left, right] at failed
              cases failed
              rcases rightHypothesis right with
                arithmetic | ⟨name, named, unknown⟩ | ⟨noValue, foreign⟩
              · exact Or.inl arithmetic
              · exact Or.inr (Or.inl ⟨name, List.mem_append_right _ named, unknown⟩)
              · exact Or.inr (Or.inr ⟨noValue, by simp [Expr.hasForeign, foreign]⟩)
          | ok rightValue =>
              rw [Expr.evaluate, left, right] at failed
              exact Or.inl (isArithmetic_of_binary failed)
  | foreign transcript line =>
      cases failed
      exact Or.inr (Or.inr ⟨⟨_, rfl⟩, rfl⟩)

/-- The character to whom a statement gives a number. -/
def Action.written? : Action → Option (Option String)
  | declare name | scanNumber name | scanCharacter name | pop name => some (some name)
  | assign target _ _ => some target
  | _ => none

variable {σ : Type}

namespace House

/-! ### One statement -/

/-- What a statement that succeeds does to the house, and to which position it
jumps.  Statements about a performance are proved from these rules and from those
of `Fails`. -/
inductive Performs (provider : Provider σ) (sink : Sink σ) (labels : Labels) (house : House σ)
    (statement : Statement) : Option Nat → House σ → Prop where
  | scene {tag : String} (action : statement.action = .scene tag) :
      Performs provider sink labels house statement none house
  | declare {name : String} (action : statement.action = .declare name) :
      Performs provider sink labels house statement none (house.declare name)
  | scanNumber {name : String} {number : Int} {input : σ}
      (action : statement.action = .scanNumber name)
      (read : provider.nextNumber house.input = (.ok number, input)) :
      Performs provider sink labels house statement none
        ({ house with input := input }.assign (some name) number)
  | scanCharacter {name : String} {character : Option Char} {input : σ}
      (action : statement.action = .scanCharacter name)
      (read : provider.nextCharacter house.input = (character, input)) :
      Performs provider sink labels house statement none
        ({ house with input := input }.assign (some name)
          (character.elim (-1) fun found => found.toNat))
  | printNumber {name : String} {value : Int} {text : CodePoints} {outside : σ}
      (action : statement.action = .printNumber name)
      (known : house.store.get? (some name) = some value)
      (taken : sink.take (.number value) house.input = (.ok text, outside)) :
      Performs provider sink labels house statement none
        ({ house with input := outside }.print text)
  | printCharacter {name : String} {value : Int} {text : CodePoints} {outside : σ}
      (action : statement.action = .printCharacter name)
      (known : house.store.get? (some name) = some value)
      (printable : 0 ≤ value ∧ value < codePointBound)
      (taken : sink.take (.character value.toNat) house.input = (.ok text, outside)) :
      Performs provider sink labels house statement none
        ({ house with input := outside }.print text)
  | push {name : String} {value : Expr} {number : Int}
      (action : statement.action = .push name value)
      (evaluated : value.evaluate house.store = .ok number) :
      Performs provider sink labels house statement none
        { house with
          memories := house.memories.put name (number :: (house.memories.get? name).getD []) }
  | pop {name : String} {number : Int} {others : List Int}
      (action : statement.action = .pop name)
      (remembered : house.memories.get? name = some (number :: others)) :
      Performs provider sink labels house statement none
        ({ house with memories := house.memories.put name others }.assign (some name) number)
  | assign {target : Option String} {line : Nat} {value : Expr} {number : Int}
      (action : statement.action = .assign target line value)
      (evaluated : value.evaluate house.store = .ok number) :
      Performs provider sink labels house statement none (house.assign target number)
  | jump {tag : String} {position : Nat} (action : statement.action = .jump tag)
      (found : labels.get? tag = some position) :
      Performs provider sink labels house statement (some position) house
  | jumpIf {question : Question} {tag : String} {line : Nat} {lhs rhs : Int} {position : Nat}
      (action : statement.action = .jumpIf question tag line)
      (left : question.lhs.evaluate house.store = .ok lhs)
      (right : question.rhs.evaluate house.store = .ok rhs)
      (holds : question.predicate.holds lhs rhs = true)
      (found : labels.get? tag = some position) :
      Performs provider sink labels house statement (some position) house
  | stay {question : Question} {tag : String} {line : Nat} {lhs rhs : Int}
      (action : statement.action = .jumpIf question tag line)
      (left : question.lhs.evaluate house.store = .ok lhs)
      (right : question.rhs.evaluate house.store = .ok rhs)
      (denied : question.predicate.holds lhs rhs = false) :
      Performs provider sink labels house statement none house
  | ask {question : Question} (action : statement.action = .ask question) :
      Performs provider sink labels house statement none house
  | remark {value : Expr} (action : statement.action = .remark value) :
      Performs provider sink labels house statement none house

/-- How a statement can fail, and what is left of the house.  Only the outside can change,
in a failure to read a number or to hand a piece over. -/
inductive Fails (provider : Provider σ) (sink : Sink σ) (labels : Labels) (house : House σ)
    (statement : Statement) : Mishap → House σ → Prop where
  | scanNumber {name : String} {fault : InputFault} {input : σ}
      (action : statement.action = .scanNumber name)
      (unread : provider.nextNumber house.input = (.error fault, input)) :
      Fails provider sink labels house statement ⟨.input fault, statement.line⟩
        { house with input := input }
  | unknown {name : String}
      (action : statement.action = .printNumber name ∨ statement.action = .printCharacter name)
      (unknown : house.store.get? (some name) = none) :
      Fails provider sink labels house statement ⟨.undeclared (some name), statement.line⟩ house
  | printNumber {name : String} {value : Int} {refusal : Refusal} {outside : σ}
      (action : statement.action = .printNumber name)
      (known : house.store.get? (some name) = some value)
      (refused : sink.take (.number value) house.input = (.error refusal, outside)) :
      Fails provider sink labels house statement ⟨refusal.cause, statement.line⟩
        { house with input := outside }
  | refused {name : String} {value : Int} {refusal : Refusal} {outside : σ}
      (action : statement.action = .printCharacter name)
      (known : house.store.get? (some name) = some value)
      (printable : 0 ≤ value ∧ value < codePointBound)
      (refused : sink.take (.character value.toNat) house.input = (.error refusal, outside)) :
      Fails provider sink labels house statement ⟨refusal.cause, statement.line⟩
        { house with input := outside }
  | printCharacter {name : String} {value : Int}
      (action : statement.action = .printCharacter name)
      (known : house.store.get? (some name) = some value)
      (unprintable : ¬ (0 ≤ value ∧ value < codePointBound)) :
      Fails provider sink labels house statement
        ⟨.quoting value (.unprintable value), statement.line⟩ house
  | push {name : String} {value : Expr} {mishap : Mishap}
      (action : statement.action = .push name value)
      (failed : value.evaluate house.store = .error mishap) :
      Fails provider sink labels house statement mishap house
  | pop {name : String} (action : statement.action = .pop name)
      (empty : (house.memories.get? name).getD [] = []) :
      Fails provider sink labels house statement ⟨.emptyStack name, statement.line⟩ house
  | assign {target : Option String} {line : Nat} {value : Expr} {mishap : Mishap}
      (action : statement.action = .assign target line value)
      (failed : value.evaluate house.store = .error mishap) :
      Fails provider sink labels house statement mishap house
  | jump {tag : String} (action : statement.action = .jump tag)
      (nowhere : labels.get? tag = none) :
      Fails provider sink labels house statement ⟨.noSuchScene tag, statement.line⟩ house
  | leftSide {question : Question} {tag : String} {line : Nat} {mishap : Mishap}
      (action : statement.action = .jumpIf question tag line)
      (failed : question.lhs.evaluate house.store = .error mishap) :
      Fails provider sink labels house statement mishap house
  | rightSide {question : Question} {tag : String} {line : Nat} {lhs : Int} {mishap : Mishap}
      (action : statement.action = .jumpIf question tag line)
      (left : question.lhs.evaluate house.store = .ok lhs)
      (failed : question.rhs.evaluate house.store = .error mishap) :
      Fails provider sink labels house statement mishap house
  | jumpIf {question : Question} {tag : String} {line : Nat} {lhs rhs : Int}
      (action : statement.action = .jumpIf question tag line)
      (left : question.lhs.evaluate house.store = .ok lhs)
      (right : question.rhs.evaluate house.store = .ok rhs)
      (holds : question.predicate.holds lhs rhs = true)
      (nowhere : labels.get? tag = none) :
      Fails provider sink labels house statement ⟨.noSuchScene tag, line⟩ house

/-! ### Statements follow the rules -/

variable {provider : Provider σ} {sink : Sink σ} {labels : Labels} {house after : House σ}
  {statement : Statement} {target : Option Nat} {mishap : Mishap}

/-- A statement follows the rules if it does so in both outcomes. -/
def Follows (provider : Provider σ) (sink : Sink σ) (labels : Labels) (house : House σ) (statement : Statement)
    (effect : Effect σ) : Prop :=
  match effect with
  | (.ok target, after) => Performs provider sink labels house statement target after
  | (.error mishap, after) => Fails provider sink labels house statement mishap after

theorem follows_withValue {value : Except Mishap Int} {use : Int → Effect σ}
    (had : ∀ number, value = .ok number →
      Follows provider sink labels house statement (use number))
    (missing : ∀ mishap, value = .error mishap →
      Fails provider sink labels house statement mishap house) :
    Follows provider sink labels house statement (house.withValue value use) := by
  cases value with
  | ok number => exact had number rfl
  | error mishap => exact missing mishap rfl

theorem follows_scanNumber {name : String} (action : statement.action = .scanNumber name) :
    Follows provider sink labels house statement (scanNumber provider house name statement.line) := by
  unfold scanNumber
  split
  · exact .scanNumber action (by assumption)
  · exact .scanNumber action (by assumption)

theorem follows_scanCharacter {name : String} (action : statement.action = .scanCharacter name) :
    Follows provider sink labels house statement (scanCharacter provider house name) := by
  unfold scanCharacter
  split
  · exact .scanCharacter action (by assumption)
  · exact .scanCharacter action (by assumption)

theorem follows_printNumber {name : String} (action : statement.action = .printNumber name) :
    Follows provider sink labels house statement
      (printNumber sink house name statement.line) := by
  refine follows_withValue (fun value read => ?_) (fun mishap unread => ?_)
  · have known := get?_of_read read
    unfold hand
    split
    · exact .printNumber action known (by assumption)
    · exact .printNumber action known (by assumption)
  · obtain ⟨unknown, rfl⟩ := unknown_of_read unread
    exact .unknown (Or.inl action) unknown

theorem follows_printCharacter {name : String}
    (action : statement.action = .printCharacter name) :
    Follows provider sink labels house statement
      (printCharacter sink house name statement.line) := by
  refine follows_withValue (fun value read => ?_) (fun mishap unread => ?_)
  · have known := get?_of_read read
    split
    · rename_i printable
      unfold hand
      split
      · exact .printCharacter action known printable (by assumption)
      · exact .refused action known printable (by assumption)
    · exact .printCharacter action known (by assumption)
  · obtain ⟨unknown, rfl⟩ := unknown_of_read unread
    exact .unknown (Or.inr action) unknown

theorem follows_pop {name : String} (action : statement.action = .pop name) :
    Follows provider sink labels house statement (house.pop name statement.line) := by
  unfold pop
  split
  · exact .pop action (by assumption)
  · rename_i noneThere
    apply Fails.pop action
    cases remembered : house.memories.get? name with
    | none => rfl
    | some numbers =>
        cases numbers with
        | nil => rfl
        | cons number others => exact absurd remembered (noneThere number others)

theorem follows_jump {tag : String} (action : statement.action = .jump tag) :
    Follows provider sink labels house statement (jump labels house tag statement.line) := by
  unfold jump
  split
  · exact .jump action (by assumption)
  · exact .jump action (by assumption)

theorem follows_jumpIf {question : Question} {tag : String} {line : Nat}
    (action : statement.action = .jumpIf question tag line) :
    Follows provider sink labels house statement (jumpIf labels house question tag line) := by
  refine follows_withValue (fun lhs left => ?_) (fun mishap failed => .leftSide action failed)
  refine follows_withValue (fun rhs right => ?_)
    (fun mishap failed => .rightSide action left failed)
  split
  · rename_i holds
    unfold jump
    split
    · exact .jumpIf action left right holds (by assumption)
    · exact .jumpIf action left right holds (by assumption)
  · rename_i denied
    exact .stay action left right (Bool.eq_false_iff.mpr denied)

/-- Every statement follows the rules. -/
theorem follows_execute (provider : Provider σ) (sink : Sink σ) (labels : Labels) (statement : Statement)
    (house : House σ) :
    Follows provider sink labels house statement (execute provider sink labels statement house) := by
  unfold execute
  split
  case h_1 tag action => exact Performs.scene action
  case h_2 name action => exact Performs.declare action
  case h_3 name action => exact follows_scanNumber action
  case h_4 name action => exact follows_scanCharacter action
  case h_5 name action => exact follows_printCharacter action
  case h_6 name action => exact follows_printNumber action
  case h_7 name value action =>
    exact follows_withValue (fun number evaluated => .push action evaluated)
      (fun mishap failed => .push action failed)
  case h_8 name action => exact follows_pop action
  case h_9 target line value action =>
    exact follows_withValue (fun number evaluated => .assign action evaluated)
      (fun mishap failed => .assign action failed)
  case h_10 tag action => exact follows_jump action
  case h_11 question tag line action => exact follows_jumpIf action
  case h_12 question action => exact Performs.ask action
  case h_13 value action => exact Performs.remark action

theorem performs_of_execute
    (executed : execute provider sink labels statement house = (.ok target, after)) :
    Performs provider sink labels house statement target after := by
  have follows := follows_execute provider sink labels statement house
  rw [executed] at follows
  exact follows

theorem fails_of_execute
    (executed : execute provider sink labels statement house = (.error mishap, after)) :
    Fails provider sink labels house statement mishap after := by
  have follows := follows_execute provider sink labels statement house
  rw [executed] at follows
  exact follows

/-! ### What a statement writes and where it jumps -/

/-- Whoever is given a number has one from then on, and nobody loses one. -/
theorem Performs.mem_keys (performs : Performs provider sink labels house statement target after)
    {name : Option String} :
    name ∈ after.store.keys ↔
      statement.action.written? = some name ∨ name ∈ house.store.keys := by
  cases performs with
  | declare action | scanNumber action | scanCharacter action | pop action | assign action =>
      simp only [action, Action.written?, Option.some.injEq]
      exact Ledger.mem_keys_put.trans (or_congr_left eq_comm)
  | scene action | printNumber action | printCharacter action | push action | jump action
  | jumpIf action | stay action | ask action | remark action =>
      simp [action, Action.written?, print]

/-- Only jumps lead elsewhere, and only to a scene that the table names. -/
theorem Performs.jumps {position : Nat}
    (performs : Performs provider sink labels house statement (some position) after) :
    ∃ tag, statement.action.destination? = some tag ∧ labels.get? tag = some position := by
  cases performs with
  | jump action found | jumpIf action left right holds found =>
      exact ⟨_, by rw [action]; rfl, found⟩

end House

/-! ### One step -/

namespace Production

/-- A step that begins a statement: the statement is there, and the limit allows it. -/
structure Begins (production : Production σ) (stand : Stand σ) (statement : Statement) :
    Prop where
  here : production.statements[stand.position]? = some statement
  within : ∀ limit, production.limit = some limit → (stand.house.steps : Int) + 1 ≤ limit

/-- A step that goes on: a statement is there, the limit allows it, and it
succeeds. -/
structure Goes (production : Production σ) (stand : Stand σ) (statement : Statement)
    (target : Option Nat) (next : Stand σ) : Prop where
  here : production.statements[stand.position]? = some statement
  within : ∀ limit, production.limit = some limit → (stand.house.steps : Int) + 1 ≤ limit
  performs : House.Performs production.provider production.sink production.labels
    { stand.house with steps := stand.house.steps + 1 } statement target next.house
  position : next.position = target.getD (stand.position + 1)

/-- A step that ends a performance: no statement is left, the limit is reached, or
the statement fails. -/
inductive Ends (production : Production σ) (stand : Stand σ) : Ending σ → Prop where
  | finished (past : production.statements[stand.position]? = none) :
      Ends production stand ⟨.ok (), stand.house⟩
  | limited {statement : Statement} {limit : Int}
      (here : production.statements[stand.position]? = some statement)
      (isLimit : production.limit = some limit)
      (exceeded : limit < (stand.house.steps : Int) + 1) :
      Ends production stand
        ⟨.error ⟨.stepLimit limit, statement.line⟩,
          { stand.house with steps := stand.house.steps + 1 }⟩
  | failed {statement : Statement} {mishap : Mishap} {after : House σ}
      (here : production.statements[stand.position]? = some statement)
      (within : ∀ limit, production.limit = some limit →
        (stand.house.steps : Int) + 1 ≤ limit)
      (fails : House.Fails production.provider production.sink production.labels
        { stand.house with steps := stand.house.steps + 1 } statement mishap after) :
      Ends production stand ⟨.error mishap, after⟩

variable {production : Production σ} {stand next : Stand σ} {statement : Statement}
  {target : Option Nat} {ending : Ending σ}

theorem within_of_filter {limit : Option Int} {steps : Nat}
    (allowed : limit.filter (· < (steps : Int)) = none) :
    ∀ bound, limit = some bound → (steps : Int) ≤ bound := by
  rintro bound rfl
  have notLess := Option.filter_eq_none_iff.mp allowed bound rfl
  simpa using notLess

/-- A step that goes on begins a statement and carries it out. -/
theorem execute_of_step (went : production.step stand = .went statement target next) :
    production.Begins stand statement ∧
      House.execute production.provider production.sink production.labels statement
        { stand.house with steps := stand.house.steps + 1 } = (.ok target, next.house) ∧
      next.position = target.getD (stand.position + 1) := by
  unfold step at went
  split at went
  · cases went
  · rename_i found here
    dsimp only at went
    split at went
    · cases went
    · rename_i allowed
      split at went
      · cases went
      · rename_i executed
        cases went
        exact ⟨⟨here, within_of_filter allowed⟩, executed, rfl⟩

theorem goes_of_step (went : production.step stand = .went statement target next) :
    production.Goes stand statement target next := by
  obtain ⟨begins, executed, position⟩ := execute_of_step went
  exact ⟨begins.here, begins.within, House.performs_of_execute executed, position⟩

theorem ends_of_step (ended : production.step stand = .ended ending) :
    production.Ends stand ending := by
  unfold step at ended
  split at ended
  · rename_i past
    cases ended
    exact .finished past
  · rename_i statement here
    dsimp only at ended
    split at ended
    · rename_i limit exceeded
      cases ended
      obtain ⟨isLimit, less⟩ := Option.filter_eq_some_iff.mp exceeded
      exact .limited here isLimit (by simpa using less)
    · rename_i allowed
      split at ended
      · rename_i executed
        cases ended
        exact .failed here (within_of_filter allowed) (House.fails_of_execute executed)
      · cases ended

/-! ### A whole performance -/

/-- The stands that a performance passes through. -/
inductive Reaches (production : Production σ) (start : Stand σ) : Stand σ → Prop where
  | here : Reaches production start start
  | step {stand next : Stand σ} {statement : Statement} {target : Option Nat}
      (reached : Reaches production start stand)
      (goes : production.Goes stand statement target next) : Reaches production start next

/-- A performance that ends does so in the step from a stand that it passes through. -/
theorem stepped_of_runFrom {start : Stand σ} {patience : Nat}
    (reached : production.Reaches start stand)
    (ended : production.runFrom patience stand = some ending) :
    ∃ last, production.Reaches start last ∧ production.step last = .ended ending := by
  induction patience generalizing stand with
  | zero => cases ended
  | succ patience inductionHypothesis =>
      unfold runFrom at ended
      split at ended
      · rename_i stepped
        cases ended
        exact ⟨stand, reached, stepped⟩
      · rename_i went
        exact inductionHypothesis (reached.step (goes_of_step went)) ended

theorem reaches_of_runFrom {start : Stand σ} {patience : Nat}
    (reached : production.Reaches start stand)
    (ended : production.runFrom patience stand = some ending) :
    ∃ last, production.Reaches start last ∧ production.Ends last ending := by
  obtain ⟨last, passed, stepped⟩ := stepped_of_runFrom reached ended
  exact ⟨last, passed, ends_of_step stepped⟩

/-- A performance that ends does so at a stand that it passes through. -/
theorem reaches_of_run {input : σ} {patience : Nat}
    (ended : production.run patience input = some ending) :
    ∃ last, production.Reaches (opening [] input) last ∧ production.Ends last ending :=
  reaches_of_runFrom .here ended

/-- The statements that a performance carries out between two stands. -/
inductive Plays (production : Production σ) : Stand σ → List Statement → Stand σ → Prop where
  | here (stand : Stand σ) : Plays production stand [] stand
  | step {stand next last : Stand σ} {statement : Statement} {target : Option Nat}
      {played : List Statement} (went : production.step stand = .went statement target next)
      (plays : Plays production next played last) :
      Plays production stand (statement :: played) last

/-- A performance goes on from every stand to which it comes. -/
theorem Plays.runFrom {played : List Statement} {last : Stand σ}
    (plays : production.Plays stand played last) (patience : Nat) :
    production.runFrom (played.length + patience) stand = production.runFrom patience last := by
  induction plays with
  | here stand => rw [List.length_nil, Nat.zero_add]
  | step went plays inductionHypothesis =>
      rw [List.length_cons, Nat.add_right_comm, Production.runFrom, went]
      exact inductionHypothesis

/-- Only what belongs to the play is carried out. -/
theorem Plays.mem_statements {played : List Statement} {last : Stand σ}
    (plays : production.Plays stand played last) (member : statement ∈ played) :
    statement ∈ production.statements := by
  induction plays with
  | here stand => cases member
  | step went plays inductionHypothesis =>
      rcases List.mem_cons.mp member with rfl | later
      · exact Array.mem_of_getElem? (goes_of_step went).here
      · exact inductionHypothesis later

end Production

end Playhouse
