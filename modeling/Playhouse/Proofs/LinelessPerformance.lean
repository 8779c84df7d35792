/-
Module: Playhouse.Proofs.LinelessPerformance
Purpose: Lines inform and decide nothing: plays that differ in their lines only are
  understood, performed and reviewed alike.
Main exports: Expr.evaluate_unlined, House.execute_unlined, Production.step_unlined,
  Production.runFrom_unlined, allRemarks_unlined, ReadingsAgree, EndingsAgree,
  lines_only_inform
-/
import Playhouse.Diagnostic
import Playhouse.Proofs.LinelessReading
import Playhouse.Proofs.Verdict

namespace Playhouse

/-!
The lines of a play pass through every value on its way: from tokens into statements,
from statements into mishaps and remarks.  Leaving them out commutes with one
operation, one statement and one step, and therefore with a whole performance.
-/

/-! ### Values -/

/-- A cause without what it says of lines: the complaint about something that has no
value shows the thing in full. -/
def MishapCause.unlined : MishapCause → MishapCause
  | noValue _ => noValue (Foreign.complaint ⟨"", "", ""⟩)
  | cause => cause

theorem MishapCause.unlined_quoting {value : Int} {cause : MishapCause}
    (lineless : cause.unlined = cause) :
    (MishapCause.quoting value cause).unlined = .quoting value cause := by
  unfold quoting
  split
  · exact lineless
  · rfl

/-- A mishap with its line forgotten, and what its cause says of lines. -/
def Mishap.unlined (mishap : Mishap) : Mishap :=
  ⟨mishap.cause.unlined, 0⟩

/-- A value that could be had or not, with the line of the mishap forgotten. -/
abbrev linelessly {α : Type} : Except Mishap α → Except Mishap α :=
  forgetting id Mishap.unlined

theorem linelessly_error {α : Type} (cause : MishapCause) (line : Nat) :
    linelessly (.error ⟨cause, line⟩ : Except Mishap α) = .error ⟨cause.unlined, 0⟩ := rfl

theorem linelessly_bind {α β : Type} {value : Except Mishap α}
    {use linelessUse : α → Except Mishap β}
    (lineless : ∀ had, linelessUse had = linelessly (use had)) :
    (linelessly value >>= linelessUse) = linelessly (value >>= use) := by
  cases value with
  | error mishap => rfl
  | ok had => exact lineless had

theorem Store.read_unlined (store : Store) (name : Option String) (line : Nat) :
    store.read name 0 = linelessly (store.read name line) := by
  unfold Store.read
  split <;> rfl

theorem BinaryOperation.apply_unlined (operation : BinaryOperation) (lhs rhs : Int) (line : Nat) :
    operation.apply lhs rhs 0 = linelessly (operation.apply lhs rhs line) := by
  cases operation with
  | add | subtract | multiply => rfl
  | divide | modulo =>
      unfold BinaryOperation.apply
      dsimp only
      split <;> rfl

theorem boundedPower_unlined (operation : UnaryOperation) (value power : Int) (line : Nat) :
    boundedPower operation value power 0 =
      linelessly (boundedPower operation value power line) := by
  unfold boundedPower
  split
  · rw [linelessly_error, MishapCause.unlined_quoting rfl]
  · rfl

theorem UnaryOperation.apply_unlined (operation : UnaryOperation) (value : Int) (line : Nat) :
    operation.apply value 0 = linelessly (operation.apply value line) := by
  cases operation with
  | twice => rfl
  | square => exact boundedPower_unlined _ _ _ line
  | cube => exact boundedPower_unlined _ _ _ line
  | squareRoot =>
      unfold UnaryOperation.apply
      dsimp only
      split
      · rw [linelessly_error, MishapCause.unlined_quoting rfl]
      · rfl

/-- An expression has the same value or the same mishap without its lines. -/
theorem Expr.evaluate_unlined (store : Store) (expression : Expr) :
    expression.unlined.evaluate store = linelessly (expression.evaluate store) := by
  induction expression with
  | character name line => exact store.read_unlined name line
  | number value line => rfl
  | unary operation operand line inner =>
      rw [unlined, evaluate, evaluate, inner]
      exact linelessly_bind fun value => operation.apply_unlined value line
  | binary operation lhs rhs line left right =>
      rw [unlined, evaluate, evaluate, left, right]
      exact linelessly_bind fun leftValue => linelessly_bind fun rightValue =>
        operation.apply_unlined leftValue rightValue line
  | foreign thing line => rfl

/-! ### Statements -/

namespace House

variable {σ : Type}

/-- An effect with the line of its mishap forgotten. -/
def unlinedEffect (effect : Effect σ) : Effect σ :=
  (linelessly effect.1, effect.2)

theorem stop_unlined (house : House σ) {cause : MishapCause} (line : Nat)
    (lineless : cause.unlined = cause) :
    house.stop cause 0 = unlinedEffect (house.stop cause line) := by
  simp only [stop, unlinedEffect, linelessly_error, lineless]

theorem hand_unlined (sink : Sink σ) (house : House σ) (piece : Piece) (line : Nat) :
    hand sink house piece 0 = unlinedEffect (hand sink house piece line) := by
  unfold hand
  split
  · rfl
  · rename_i refusal outside taken
    exact stop_unlined _ line (by cases refusal <;> rfl)

theorem withValue_unlined {house : House σ} {value lineless : Except Mishap Int}
    {use linelessUse : Int → Effect σ} (sameValue : lineless = linelessly value)
    (sameUse : ∀ number, linelessUse number = unlinedEffect (use number)) :
    house.withValue lineless linelessUse = unlinedEffect (house.withValue value use) := by
  subst sameValue
  cases value with
  | error mishap => rfl
  | ok number => exact sameUse number

theorem jump_unlined (labels : Labels) (house : House σ) (tag : String) (line : Nat) :
    jump labels house tag 0 = unlinedEffect (jump labels house tag line) := by
  unfold jump
  split <;> rfl

/-- A statement has the same effect without its lines, but for the line of a mishap. -/
theorem execute_unlined (provider : Provider σ) (sink : Sink σ) (labels : Labels)
    (statement : Statement) (house : House σ) :
    execute provider sink labels statement.unlined house =
      unlinedEffect (execute provider sink labels statement house) := by
  obtain ⟨action, line⟩ := statement
  cases action with
  | scene | declare | ask | remark => rfl
  | scanNumber name =>
      simp only [execute, Statement.unlined, Action.unlined, scanNumber]
      split <;> rfl
  | scanCharacter name =>
      simp only [execute, Statement.unlined, Action.unlined, scanCharacter]
      split <;> rfl
  | printCharacter name =>
      refine withValue_unlined (house.store.read_unlined (some name) line) fun value => ?_
      split
      · exact hand_unlined sink house _ line
      · exact stop_unlined house line (MishapCause.unlined_quoting rfl)
  | printNumber name =>
      exact withValue_unlined (house.store.read_unlined (some name) line) fun value =>
        hand_unlined sink house _ line
  | push name value =>
      exact withValue_unlined (value.evaluate_unlined house.store) fun number => rfl
  | pop name =>
      simp only [execute, Statement.unlined, Action.unlined, pop]
      split <;> rfl
  | assign target targetLine value =>
      exact withValue_unlined (value.evaluate_unlined house.store) fun number => rfl
  | jump tag => exact jump_unlined labels house tag line
  | jumpIf question tag jumpLine =>
      refine withValue_unlined (question.lhs.evaluate_unlined house.store) fun lhs => ?_
      refine withValue_unlined (question.rhs.evaluate_unlined house.store) fun rhs => ?_
      -- Which way the question goes depends on its two numbers alone.
      show (if question.predicate.holds lhs rhs then _ else _) = _
      split
      · exact jump_unlined labels house tag jumpLine
      · rfl

end House

/-! ### Performances -/

theorem Labels.enter_unlined (labels : Labels) (position : Nat) (statements : List Statement) :
    labels.enter position (statements.map Statement.unlined) =
      labels.enter position statements := by
  induction statements generalizing labels position with
  | nil => rfl
  | cons statement rest inductionHypothesis =>
      obtain ⟨action, line⟩ := statement
      cases action <;> exact inductionHypothesis _ _

/-- An ending with the line of its mishap forgotten. -/
def Ending.unlined {σ : Type} (ending : Ending σ) : Ending σ :=
  ⟨linelessly ending.outcome, ending.house⟩

def Progress.unlined {σ : Type} : Progress σ → Progress σ
  | ended ending => ended ending.unlined
  | went statement target next => went statement.unlined target next

namespace Production

variable {σ : Type} (provider : Provider σ) (sink : Sink σ) (limit : Option Int)
  (statements : List Statement)

/-- A step leads to the same stand or to the same ending without lines. -/
theorem step_unlined (stand : Stand σ) :
    (ofStatements provider limit (statements.map Statement.unlined) sink).step stand =
      ((ofStatements provider limit statements sink).step stand).unlined := by
  have sameLabels : Labels.ofStatements (statements.map Statement.unlined) =
      Labels.ofStatements statements := Labels.enter_unlined [] 0 statements
  simp only [step, ofStatements, List.getElem?_toArray, List.getElem?_map, sameLabels]
  cases statements[stand.position]? with
  | none => rfl
  | some statement =>
      dsimp only [Option.map_some]
      split
      · rfl
      · rw [House.execute_unlined]
        generalize House.execute provider sink _ statement _ = effect
        obtain ⟨result, after⟩ := effect
        cases result <;> rfl

/-- A performance ends alike without lines, or goes on alike. -/
theorem runFrom_unlined (patience : Nat) (stand : Stand σ) :
    (ofStatements provider limit (statements.map Statement.unlined) sink).runFrom patience stand =
      ((ofStatements provider limit statements sink).runFrom patience stand).map
        Ending.unlined := by
  induction patience generalizing stand with
  | zero => rfl
  | succ patience inductionHypothesis =>
      rw [runFrom, runFrom, step_unlined]
      cases (ofStatements provider limit statements sink).step stand with
      | ended ending => rfl
      | went statement target next => exact inductionHypothesis next

end Production

/-! ### Reviews -/

/-- A remark with its line forgotten. -/
def Remark.unlined (remark : Remark) : Remark :=
  ⟨remark.concern, 0⟩

theorem Action.destination?_unlined (action : Action) :
    action.unlined.destination? = action.destination? := by
  cases action <;> rfl

theorem Expr.names_unlined (expression : Expr) : expression.unlined.names = expression.names := by
  induction expression with
  | character | number | foreign => rfl
  | unary operation operand line inner => exact inner
  | binary operation lhs rhs line left right => rw [unlined, names, names, left, right]

theorem Action.names_unlined (action : Action) : action.unlined.names = action.names := by
  cases action with
  | push name value => rw [unlined, names, names, value.names_unlined]
  | assign target targetLine value => rw [unlined, names, names, value.names_unlined]
  | jumpIf question tag jumpLine =>
      rw [unlined, names, names, Question.unlined, question.lhs.names_unlined,
        question.rhs.names_unlined]
  | _ => rfl

section

variable (statements : List Statement)

/-- What is picked from statements regardless of their lines is picked without them. -/
theorem filterMap_unlined {α : Type} {pick : Statement → Option α}
    (lineless : ∀ statement, pick statement.unlined = pick statement) :
    (statements.map Statement.unlined).filterMap pick = statements.filterMap pick := by
  rw [List.filterMap_map]
  exact congrArg (List.filterMap · statements) (funext lineless)

/-- Remarks on single statements are made without lines as well. -/
theorem filterMap_remark_unlined {remark? : Statement → Option Remark}
    (lineless : ∀ statement, remark? statement.unlined = (remark? statement).map Remark.unlined) :
    (statements.map Statement.unlined).filterMap remark? =
      (statements.filterMap remark?).map Remark.unlined := by
  rw [List.filterMap_map, List.map_filterMap]
  exact congrArg (List.filterMap · statements) (funext lineless)

theorem sceneTags_unlined :
    sceneTags (statements.map Statement.unlined) = sceneTags statements := by
  apply filterMap_unlined
  rintro ⟨action, line⟩
  cases action <;> rfl

theorem jumpRemarks_unlined :
    jumpRemarks (statements.map Statement.unlined) =
      (jumpRemarks statements).map Remark.unlined := by
  unfold jumpRemarks
  rw [sceneTags_unlined]
  apply filterMap_remark_unlined
  rintro ⟨action, line⟩
  simp only [Statement.unlined, Action.destination?_unlined]
  split
  · split <;> rfl
  · rfl

theorem tagRemarksFrom_unlined (seen : List String) :
    tagRemarksFrom seen (statements.map Statement.unlined) =
      (tagRemarksFrom seen statements).map Remark.unlined := by
  induction statements generalizing seen with
  | nil => rfl
  | cons statement rest inductionHypothesis =>
      obtain ⟨action, line⟩ := statement
      cases action with
      | scene tag =>
          simp only [List.map_cons, Statement.unlined, Action.unlined, tagRemarksFrom,
            inductionHypothesis]
          split <;> rfl
      | _ => exact inductionHypothesis seen

theorem characterRemarks_unlined :
    characterRemarks (statements.map Statement.unlined) =
      (characterRemarks statements).map Remark.unlined := by
  have sameUsed : (statements.map Statement.unlined).flatMap (fun statement =>
      statement.action.names) = statements.flatMap fun statement => statement.action.names := by
    simp only [List.flatMap_map, Statement.unlined, Action.names_unlined]
  unfold characterRemarks
  rw [sameUsed]
  apply filterMap_remark_unlined
  rintro ⟨action, line⟩
  cases action with
  | declare name =>
      simp only [Statement.unlined, Action.unlined]
      split <;> rfl
  | _ => rfl

theorem stackRemarks_unlined :
    stackRemarks (statements.map Statement.unlined) =
      (stackRemarks statements).map Remark.unlined := by
  unfold stackRemarks
  rw [@filterMap_unlined statements String]
  · apply filterMap_remark_unlined
    rintro ⟨action, line⟩
    cases action with
    | pop name =>
        simp only [Statement.unlined, Action.unlined]
        split <;> rfl
    | _ => rfl
  · rintro ⟨action, line⟩
    cases action <;> rfl

/-- The checks make the same remarks without lines. -/
theorem allRemarks_unlined :
    allRemarks (statements.map Statement.unlined) =
      (allRemarks statements).map Remark.unlined := by
  simp only [allRemarks, tagRemarks, jumpRemarks_unlined, tagRemarksFrom_unlined,
    characterRemarks_unlined, stackRemarks_unlined, List.map_append]

/-- The concerns of a review are those that it raises without lines. -/
theorem review_concerns_perm :
    ((review statements).map Remark.concern).Perm
      ((allRemarks (statements.map Statement.unlined)).map Remark.concern) := by
  rw [allRemarks_unlined, List.map_map]
  exact (review_perm statements).map Remark.concern

end

/-! ### Reports -/

/-- A failure with the line of its report left out, and the wording about something that
has no value. -/
def Failure.unlined : Failure → Failure
  | diagnosed diagnostic => diagnosed { diagnostic with line := none }
  | noValue _ => noValue ""
  | failure => failure

theorem ReadFault.diagnostic_unlined (fault : ReadFault) :
    fault.unlined.diagnostic.kind = fault.diagnostic.kind ∧
      fault.unlined.diagnostic.message = fault.diagnostic.message := by
  cases fault <;> exact ⟨rfl, rfl⟩

theorem Mishap.failure_unlined (mishap : Mishap) :
    mishap.unlined.failure.unlined = mishap.failure.unlined := by
  obtain ⟨cause, line⟩ := mishap
  cases cause with
  | stepLimit limit =>
      -- Whether the limit can be written has nothing to do with lines.
      simp only [unlined, MishapCause.unlined, failure]
      split <;> rfl
  | _ => rfl

/-- Two results that agree: values that are alike, or faults that are alike. -/
inductive Agree {α ε : Type} (alike : α → α → Prop) (alikeFaults : ε → ε → Prop) :
    Except ε α → Except ε α → Prop where
  | ok {value other : α} (isAlike : alike value other) :
      Agree alike alikeFaults (.ok value) (.ok other)
  | error {fault other : ε} (isAlike : alikeFaults fault other) :
      Agree alike alikeFaults (.error fault) (.error other)

/-- Results that are equal once lines are forgotten agree. -/
theorem agree_of_forgetting {α β ε : Type} {forget : α → β} {forgetFault : ε → ε}
    {alikeFaults : ε → ε → Prop} {result other : Except ε α}
    (alikeOfSame : ∀ fault otherFault, forgetFault fault = forgetFault otherFault →
      alikeFaults fault otherFault)
    (same : forgetting forget forgetFault result = forgetting forget forgetFault other) :
    Agree (fun value otherValue => forget value = forget otherValue) alikeFaults result other := by
  cases result with
  | ok value =>
      cases other with
      | ok otherValue => exact .ok (Except.ok.inj same)
      | error otherFault => cases same
  | error fault =>
      cases other with
      | ok otherValue => cases same
      | error otherFault => exact .error (alikeOfSame _ _ (Except.error.inj same))

/-- Readings that agree: the same statements up to lines, or faults of one family with
one wording. -/
def ReadingsAgree : Except ReadFault (List Statement) → Except ReadFault (List Statement) → Prop :=
  Agree (fun told other => told.map Statement.unlined = other.map Statement.unlined)
    fun fault other =>
      fault.diagnostic.kind = other.diagnostic.kind ∧
        fault.diagnostic.message = other.diagnostic.message

/-- Endings that agree: the same house, and mishaps that are reported alike if there are
any.  The wording about something that has no value may be different. -/
structure EndingsAgree {σ : Type} (ending other : Ending σ) : Prop where
  house : ending.house = other.house
  outcome : Agree Eq (fun mishap otherMishap =>
    mishap.failure.unlined = otherMishap.failure.unlined) ending.outcome other.outcome

theorem readingsAgree_of_unlined {vocabulary : Vocabulary} {tokens others : List Token}
    (same : tokens.map Token.unlined = others.map Token.unlined) :
    ReadingsAgree (readTokens vocabulary tokens) (readTokens vocabulary others) := by
  have sameResult := readTokens_unlined vocabulary tokens
  rw [same, readTokens_unlined vocabulary others] at sameResult
  refine agree_of_forgetting (fun fault other sameFault => ?_) sameResult.symm
  obtain ⟨kind, message⟩ := fault.diagnostic_unlined
  obtain ⟨otherKind, otherMessage⟩ := other.diagnostic_unlined
  rw [← kind, ← message, sameFault]
  exact ⟨otherKind, otherMessage⟩

theorem endingsAgree_of_unlined {σ : Type} {ending other : Ending σ}
    (same : ending.unlined = other.unlined) : EndingsAgree ending other where
  house := (Ending.mk.inj same).2
  outcome := by
    refine agree_of_forgetting (fun mishap otherMishap sameMishap => ?_) (Ending.mk.inj same).1
    rw [← mishap.failure_unlined, sameMishap, otherMishap.failure_unlined]

theorem Production.run_agree {σ : Type} {statements others : List Statement}
    (same : statements.map Statement.unlined = others.map Statement.unlined)
    (provider : Provider σ) (sink : Sink σ) (limit : Option Int) (patience : Nat) (input : σ) :
    Option.Rel EndingsAgree
      ((ofStatements provider limit statements sink).run patience input)
      ((ofStatements provider limit others sink).run patience input) := by
  have sameEnding := runFrom_unlined provider sink limit statements patience (opening [] input)
  rw [same, runFrom_unlined] at sameEnding
  unfold run
  generalize (ofStatements provider limit statements sink).runFrom patience _ = ending
    at sameEnding ⊢
  generalize (ofStatements provider limit others sink).runFrom patience _ = other
    at sameEnding ⊢
  cases ending with
  | none =>
      cases other with
      | none => exact .none
      | some otherEnding => cases sameEnding
  | some ending =>
      cases other with
      | none => cases sameEnding
      | some otherEnding =>
          exact .some (endingsAgree_of_unlined (Option.some.inj sameEnding).symm)

/-- Lines inform and decide nothing.  Tokens that agree up to lines are understood alike,
and statements that agree up to lines are performed alike, with the same input, limit and
sink, and raise the same concerns.  Only the wording about something that has no value
tells lines, because it shows the thing in full. -/
theorem lines_only_inform :
    (∀ (vocabulary : Vocabulary) (tokens others : List Token),
      tokens.map Token.kind = others.map Token.kind →
        ReadingsAgree (readTokens vocabulary tokens) (readTokens vocabulary others)) ∧
    ∀ statements others : List Statement,
      statements.map Statement.unlined = others.map Statement.unlined →
        (∀ (σ : Type) (provider : Provider σ) (sink : Sink σ) (limit : Option Int)
            (patience : Nat) (input : σ),
          Option.Rel EndingsAgree
            ((Production.ofStatements provider limit statements sink).run patience input)
            ((Production.ofStatements provider limit others sink).run patience input)) ∧
        ((review statements).map Remark.concern).Perm
          ((review others).map Remark.concern) := by
  constructor
  · intro vocabulary tokens others sameKinds
    exact readingsAgree_of_unlined (unlined_of_kind sameKinds)
  · intro statements others same
    constructor
    · intro σ provider sink limit patience input
      exact Production.run_agree same provider sink limit patience input
    · have concerns := review_concerns_perm statements
      rw [same] at concerns
      exact concerns.trans (review_concerns_perm others).symm

/-- A jump to a scene that does not exist, on two sheets with other lines: the mishap is
the same, and the two concerns change places in the review. -/
theorem lines_only_inform_adrift :
    ReadingsAgree
      (readTokens ⟨[]⟩ [⟨.lexeme .punctuation, 1⟩, ⟨.printNumber, 2⟩])
      (readTokens ⟨[]⟩ [⟨.lexeme .punctuation, 4⟩, ⟨.printNumber, 9⟩]) ∧
    Option.Rel EndingsAgree
      ((Production.ofStatements Prompter.provider none
        [⟨.declare "Ajax", 4⟩, ⟨.jump "I.I", 2⟩]).run 3 ⟨[], []⟩)
      ((Production.ofStatements Prompter.provider none
        [⟨.declare "Ajax", 1⟩, ⟨.jump "I.I", 2⟩]).run 3 ⟨[], []⟩) ∧
    List.Perm [Concern.jump "I.I", .character "Ajax"] [.character "Ajax", .jump "I.I"] := by
  have sameStatements := lines_only_inform.2 [⟨.declare "Ajax", 4⟩, ⟨.jump "I.I", 2⟩]
    [⟨.declare "Ajax", 1⟩, ⟨.jump "I.I", 2⟩] rfl
  exact ⟨lines_only_inform.1 _ _ _ rfl, sameStatements.1 _ _ _ _ _ _, sameStatements.2⟩

/-- Something that has no value is shown in full when its value is asked for.  So two plays
that differ in the lines of such a thing end with two wordings. -/
theorem lines_told_in_full :
    [(⟨.assign (some "Ajax") 0 (.foreign (.bare 3) 3), 0⟩ : Statement)].map Statement.unlined =
        [(⟨.assign (some "Ajax") 0 (.foreign (.bare 4) 4), 0⟩ : Statement)].map
          Statement.unlined ∧
      ((Production.ofStatements Prompter.provider none
          [⟨.assign (some "Ajax") 0 (.foreign (.bare 3) 3), 0⟩]).run 1 ⟨[], []⟩).map
            (fun ending => ending.outcome.mapError Mishap.failure) =
        some (.error (.noValue "Not an expression: ExpressionNode(line=3)")) ∧
      ((Production.ofStatements Prompter.provider none
          [⟨.assign (some "Ajax") 0 (.foreign (.bare 4) 4), 0⟩]).run 1 ⟨[], []⟩).map
            (fun ending => ending.outcome.mapError Mishap.failure) =
        some (.error (.noValue "Not an expression: ExpressionNode(line=4)")) :=
  ⟨rfl, rfl, rfl⟩

end Playhouse
