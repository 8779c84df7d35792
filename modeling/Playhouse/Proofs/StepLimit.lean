/-
Module: Playhouse.Proofs.StepLimit
Purpose: A limit on the steps of a performance does nothing but cut it short: short of the
  limit it makes no difference, and what has been printed by then is printed under every
  higher limit as well.
Main exports: Ending.isCutShort, Progress.ofEffect, Production.step_of_within,
  Production.step_of_exceeded, Production.executed, Production.runInduction,
  Production.steps_of_runFrom, Production.length_executed_le, Production.withLimit,
  Production.runFrom_raise, Production.Continues, Production.continues_of_runFrom
-/
import Playhouse.Performance.Limit
import Playhouse.Proofs.Performance

namespace Playhouse

variable {σ : Type}

/-! ### Mishaps of statements -/

/-- Whether it is the limit that stops a performance. -/
def MishapCause.isLimit : MishapCause → Bool
  | stepLimit _ => true
  | _ => false

/-- Whether a performance was cut short by its limit. -/
def Ending.isCutShort (ending : Ending σ) : Bool :=
  match ending.outcome with
  | .ok () => false
  | .error mishap => mishap.cause.isLimit

/-- Whether a performance ended because a statement failed. -/
def Ending.isFailure (ending : Ending σ) : Bool :=
  match ending.outcome with
  | .ok () => false
  | .error mishap => !mishap.cause.isLimit

theorem not_isLimit_of_evaluate {store : Store} {expression : Expr} {mishap : Mishap}
    (failed : expression.evaluate store = .error mishap) : mishap.cause.isLimit = false := by
  rcases cause_of_evaluate failed with arithmetic | ⟨name, _, isUndeclared, _⟩ | ⟨⟨_, isNoValue⟩, _⟩
  · cases isCause : mishap.cause <;> simp_all [MishapCause.isArithmetic, MishapCause.isLimit]
  · rw [isUndeclared]
    rfl
  · rw [isNoValue]
    rfl

namespace House

variable {provider : Provider σ} {sink : Sink σ} {labels : Labels} {house after : House σ}
  {statement : Statement} {target : Option Nat} {mishap : Mishap}

/-- No statement fails by the limit. -/
theorem Fails.not_isLimit (fails : Fails provider sink labels house statement mishap after) :
    mishap.cause.isLimit = false := by
  cases fails with
  | @printNumber name value refusal | @refused name value refusal => cases refusal <;> rfl
  | scanNumber | unknown | pop | jump | jumpIf => rfl
  | @printCharacter name value =>
      rcases quoting_cases value (.unprintable value) with quoted | unwritten
      · rw [quoted]
        rfl
      · rw [unwritten]
        rfl
  | push _ failed | assign _ failed | leftSide _ failed | rightSide _ _ failed =>
      exact not_isLimit_of_evaluate failed

/-- A statement that fails neither counts nor prints. -/
theorem Fails.frame (fails : Fails provider sink labels house statement mishap after) :
    after.steps = house.steps ∧ after.printed = house.printed := by
  cases fails <;> exact ⟨rfl, rfl⟩

/-- Nothing printed is ever taken back. -/
theorem Performs.printed_suffix
    (performs : Performs provider sink labels house statement target after) :
    house.printed <:+ after.printed := by
  cases performs with
  | printNumber | printCharacter => exact List.suffix_cons _ _
  | scene | declare | scanNumber | scanCharacter | push | pop | assign | jump | jumpIf | stay | ask
  | remark => exact List.suffix_rfl

theorem output_prefix_of_printed (kept : house.printed <:+ after.printed) :
    house.output <+: after.output := by
  obtain ⟨more, isMore⟩ : house.pieces <+: after.pieces := List.reverse_prefix.mpr kept
  rw [output, output, ← isMore, List.flatten_append]
  exact List.prefix_append _ _

end House

/-- What a step leads to when the statement at a position has an effect. -/
def Progress.ofEffect (statement : Statement) (position : Nat) : House.Effect σ → Progress σ
  | (.error mishap, after) => .ended ⟨.error mishap, after⟩
  | (.ok target, after) => .went statement target ⟨target.getD (position + 1), after⟩

namespace Production

variable {production : Production σ} {start stand next last : Stand σ} {statement : Statement}
  {target : Option Nat} {ending short : Ending σ} {patience : Nat} {limit : Int}
  {higher : Option Int}

/-! ### Steps within the limit and beyond -/

theorem filter_eq_none_of_le {bound : Option Int} {steps : Nat}
    (allowed : ∀ limit, bound = some limit → (steps : Int) ≤ limit) :
    bound.filter (· < (steps : Int)) = none := by
  rw [Option.filter_eq_none_iff]
  intro limit isLimit
  have notLess := allowed limit isLimit
  simpa using notLess

/-- A step within the limit carries out the statement that is there. -/
theorem step_of_within (here : production.statements[stand.position]? = some statement)
    (within : ∀ limit, production.limit = some limit → (stand.house.steps : Int) + 1 ≤ limit) :
    production.step stand = .ofEffect statement stand.position
      (House.execute production.provider production.sink production.labels statement
        { stand.house with steps := stand.house.steps + 1 }) := by
  have allowed : production.limit.filter (· < ((stand.house.steps + 1 : Nat) : Int)) = none :=
    filter_eq_none_of_le within
  simp only [step, here, allowed]
  rcases House.execute production.provider production.sink production.labels statement _ with
    ⟨mishap | target, after⟩ <;> rfl

/-- A step beyond the limit counts the statement that is there and ends. -/
theorem step_of_exceeded (here : production.statements[stand.position]? = some statement)
    (limited : production.limit = some limit)
    (exceeded : limit < (stand.house.steps : Int) + 1) :
    production.step stand = .ended ⟨.error ⟨.stepLimit limit, statement.line⟩,
      { stand.house with steps := stand.house.steps + 1 }⟩ := by
  have isStopped : production.limit.filter (· < ((stand.house.steps + 1 : Nat) : Int)) =
      some limit := by
    rw [limited, Option.filter_some, if_pos (by simpa using exceeded)]
  simp only [step, here, isStopped]

/-! ### Counting statements -/

/-- The statements that a performance executes from a stand on.  Those that it goes on from
count, and so does one that fails, but not one that the limit keeps from being begun. -/
def executed (production : Production σ) : Nat → Stand σ → List Statement
  | 0, _ => []
  | patience + 1, stand =>
      match production.step stand with
      | .ended ending =>
          if ending.isFailure then production.statements[stand.position]?.toList else []
      | .went statement _ next => statement :: production.executed patience next

theorem executed_ended (ended : production.step stand = .ended ending) (patience : Nat) :
    production.executed (patience + 1) stand =
      if ending.isFailure then production.statements[stand.position]?.toList else [] := by
  rw [executed, ended]

theorem executed_went (went : production.step stand = .went statement target next)
    (patience : Nat) :
    production.executed (patience + 1) stand = statement :: production.executed patience next := by
  rw [executed, went]

theorem runFrom_ended (ended : production.step stand = .ended ending) (patience : Nat) :
    production.runFrom (patience + 1) stand = some ending := by
  rw [runFrom, ended]

theorem runFrom_went (went : production.step stand = .went statement target next)
    (patience : Nat) :
    production.runFrom (patience + 1) stand = production.runFrom patience next := by
  rw [runFrom, went]

/-- Induction along a performance that ends: it ends at once, or it goes on and ends later. -/
@[elab_as_elim]
theorem runInduction
    {motive : (patience : Nat) → (stand : Stand σ) →
      production.runFrom patience stand = some ending → Prop}
    (ended : ∀ patience stand (stepped : production.step stand = .ended ending),
      motive (patience + 1) stand (runFrom_ended stepped patience))
    (went : ∀ patience stand statement target next
      (stepped : production.step stand = .went statement target next)
      (further : production.runFrom patience next = some ending), motive patience next further →
      motive (patience + 1) stand ((runFrom_went stepped patience).trans further))
    (patience : Nat) (stand : Stand σ) (ends : production.runFrom patience stand = some ending) :
    motive patience stand ends := by
  induction patience generalizing stand with
  | zero => cases ends
  | succ patience inductionHypothesis =>
      cases stepped : production.step stand with
      | ended final =>
          obtain rfl := Option.some.inj ((runFrom_ended stepped patience).symm.trans ends)
          exact ended patience stand stepped
      | went statement target next =>
          have further := (runFrom_went stepped patience).symm.trans ends
          exact went patience stand statement target next stepped further
            (inductionHypothesis next further)

/-- The last step counts the statement that fails, or the one that the limit forbids. -/
theorem Ends.steps (ends : production.Ends stand ending) :
    ending.house.steps = stand.house.steps +
      (if ending.isFailure then production.statements[stand.position]?.toList else []).length +
      ending.isCutShort.toNat := by
  cases ends with
  | finished past => rfl
  | limited here isLimit exceeded => rfl
  | failed here within fails =>
      obtain ⟨counted, _⟩ := fails.frame
      simp [Ending.isFailure, Ending.isCutShort, fails.not_isLimit, here, counted]

/-- The count of steps is the number of statements executed, and one more if the
performance was cut short. -/
theorem steps_of_runFrom (ended : production.runFrom patience stand = some ending) :
    ending.house.steps = stand.house.steps + (production.executed patience stand).length +
      ending.isCutShort.toNat := by
  induction patience, stand, ended using runInduction with
  | ended patience stand stepped =>
      rw [executed_ended stepped]
      exact (ends_of_step stepped).steps
  | went patience stand statement target next stepped further counted =>
      have one := (step_went stepped).1
      rw [executed_went stepped, List.length_cons]
      omega

/-- No more statements are executed than the limit allows. -/
theorem length_executed_le (limited : production.limit = some limit) (patience : Nat)
    (stand : Stand σ) :
    (production.executed patience stand).length ≤ (limit - stand.house.steps).toNat := by
  induction patience generalizing stand with
  | zero => exact Nat.zero_le _
  | succ patience inductionHypothesis =>
      cases stepped : production.step stand with
      | ended ending =>
          rw [executed_ended stepped]
          cases ends_of_step stepped with
          | finished past => exact Nat.zero_le _
          | limited here isLimit exceeded => exact Nat.zero_le _
          | failed here within fails =>
              have bound := within limit limited
              simp only [Ending.isFailure, fails.not_isLimit, here, Bool.not_false, if_true,
                Option.toList_some, List.length_singleton]
              omega
      | went statement target next =>
          obtain ⟨counted, within⟩ := step_went stepped
          have bound := within limit limited
          have rest := inductionHypothesis next
          rw [executed_went stepped, List.length_cons]
          omega

/-- A performance that is cut short has counted a statement that the limit forbids. -/
theorem Ends.of_isCutShort (ends : production.Ends stand ending)
    (cut : ending.isCutShort = true) :
    ending.house = { stand.house with steps := stand.house.steps + 1 } ∧
      ∃ bound, production.limit = some bound ∧ bound < (stand.house.steps : Int) + 1 := by
  cases ends with
  | finished past => cases cut
  | limited here isLimit exceeded => exact ⟨rfl, _, isLimit, exceeded⟩
  | failed here within fails =>
      have uncut := fails.not_isLimit
      exact absurd (uncut.symm.trans cut) Bool.false_ne_true

/-- A performance is cut short at the statement after the last one that the limit allows. -/
theorem steps_of_isCutShort (limited : production.limit = some limit)
    (below : (stand.house.steps : Int) ≤ limit)
    (ended : production.runFrom patience stand = some ending) (cut : ending.isCutShort = true) :
    (ending.house.steps : Int) = limit + 1 := by
  induction patience, stand, ended using runInduction with
  | ended patience stand stepped =>
      obtain ⟨isHouse, bound, isLimit, exceeded⟩ := (ends_of_step stepped).of_isCutShort cut
      rw [limited] at isLimit
      obtain rfl := Option.some.inj isLimit
      have counted : ending.house.steps = stand.house.steps + 1 := by rw [isHouse]
      omega
  | went patience stand statement target next stepped further inductionHypothesis =>
      exact inductionHypothesis ((step_went stepped).2 limit limited)

/-- With more patience than the limit has steps, a performance comes to its end. -/
theorem run_of_limit (limited : production.limit = some limit) (patient : limit.toNat < patience)
    (input : σ) :
    production.run patience input = some (production.runWithin limit limited input) := by
  obtain ⟨more, rfl⟩ := Nat.exists_eq_add_of_le (Nat.succ_le_of_lt patient)
  exact production.runFrom_mono (Option.some_get _).symm more

/-! ### Raising the limit -/

/-- The same production with another limit. -/
def withLimit (production : Production σ) (limit : Option Int) : Production σ :=
  { production with limit := limit }

/-- A step that the limit does not stop is the same under every higher limit. -/
theorem step_raise (limited : production.limit = some limit)
    (above : ∀ bound, higher = some bound → limit ≤ bound)
    (uncut : ∀ ending, production.step stand = .ended ending → ending.isCutShort = false) :
    (production.withLimit higher).step stand = production.step stand := by
  cases here : production.statements[stand.position]? with
  | none => simp only [step, withLimit, here]
  | some statement =>
      by_cases allowed : (stand.house.steps : Int) + 1 ≤ limit
      · have lower : ∀ bound, production.limit = some bound →
            (stand.house.steps : Int) + 1 ≤ bound := by
          intro bound isBound
          rw [limited] at isBound
          obtain rfl := Option.some.inj isBound
          exact allowed
        have upper : ∀ bound, higher = some bound → (stand.house.steps : Int) + 1 ≤ bound :=
          fun bound isBound => Int.le_trans allowed (above bound isBound)
        rw [step_of_within here lower]
        apply step_of_within
        · exact here
        · exact upper
      · have stopped := step_of_exceeded here limited (Int.not_le.mp allowed)
        exact absurd (uncut _ stopped) (by simp [Ending.isCutShort, MishapCause.isLimit])

/-- A step that goes on does so under every higher limit. -/
theorem went_raise (limited : production.limit = some limit)
    (above : ∀ bound, higher = some bound → limit ≤ bound)
    (went : production.step stand = .went statement target next) :
    (production.withLimit higher).step stand = .went statement target next := by
  rw [step_raise limited above (fun ending ended => by rw [went] at ended; cases ended), went]

/-- A performance that is not cut short ends the same under every higher limit. -/
theorem runFrom_raise (limited : production.limit = some limit)
    (above : ∀ bound, higher = some bound → limit ≤ bound)
    (ended : production.runFrom patience stand = some ending) (uncut : ending.isCutShort = false) :
    (production.withLimit higher).runFrom patience stand = some ending := by
  induction patience, stand, ended using runInduction with
  | ended patience stand stepped =>
      apply runFrom_ended
      rw [step_raise limited above, stepped]
      intro other isOther
      rw [stepped] at isOther
      obtain rfl := Progress.ended.inj isOther
      exact uncut
  | went patience stand statement target next stepped further inductionHypothesis =>
      rw [runFrom_went (went_raise limited above stepped)]
      exact inductionHypothesis

/-! ### What has been printed stays -/

theorem Reaches.head (goes : production.Goes stand statement target next)
    (reached : production.Reaches next last) : production.Reaches stand last := by
  induction reached with
  | here => exact .step .here goes
  | step reached further inductionHypothesis => exact .step inductionHypothesis further

/-- Later stands have printed more. -/
theorem Reaches.printed_suffix (reached : production.Reaches start stand) :
    start.house.printed <:+ stand.house.printed := by
  induction reached with
  | here => exact List.suffix_rfl
  | step reached goes inductionHypothesis =>
      exact inductionHypothesis.trans goes.performs.printed_suffix

theorem Ends.printed (ends : production.Ends stand ending) :
    ending.house.printed = stand.house.printed := by
  cases ends with
  | finished past => rfl
  | limited here isLimit exceeded => rfl
  | failed here within fails => exact fails.frame.2

theorem printed_suffix_of_runFrom (ended : production.runFrom patience stand = some ending) :
    stand.house.printed <:+ ending.house.printed := by
  obtain ⟨last, reached, ends⟩ := reaches_of_runFrom .here ended
  rw [ends.printed]
  exact reached.printed_suffix

/-- A performance that continues another one, which was cut short.  It comes to the same
house, apart from the statement that was counted in vain, and it goes on printing from
there, whether it ends or not. -/
structure Continues (production : Production σ) (start : Stand σ) (short : Ending σ) : Prop where
  onward : ∃ stand, production.Reaches start stand ∧
    short.house = { stand.house with steps := stand.house.steps + 1 } ∧
    ∀ later, production.Reaches stand later → short.house.output <+: later.house.output
  extended : ∀ patience ending, production.runFrom patience start = some ending →
    short.house.output <+: ending.house.output

theorem continues_here
    (isHouse : short.house = { stand.house with steps := stand.house.steps + 1 }) :
    production.Continues stand short := by
  have printed : short.house.printed = stand.house.printed := by rw [isHouse]
  refine ⟨⟨stand, .here, isHouse, fun later reached => ?_⟩, fun patience ending ended => ?_⟩
  · apply House.output_prefix_of_printed
    rw [printed]
    exact reached.printed_suffix
  · apply House.output_prefix_of_printed
    rw [printed]
    exact printed_suffix_of_runFrom ended

theorem Continues.cons (went : production.step stand = .went statement target next)
    (continues : production.Continues next short) : production.Continues stand short := by
  obtain ⟨⟨last, reached, isHouse, later⟩, extended⟩ := continues
  refine ⟨⟨last, reached.head (goes_of_step went), isHouse, later⟩, ?_⟩
  intro patience ending ended
  cases patience with
  | zero => cases ended
  | succ patience =>
      rw [runFrom_went went] at ended
      exact extended patience ending ended

/-- A performance that is cut short is continued under every higher limit. -/
theorem continues_of_runFrom (limited : production.limit = some limit)
    (above : ∀ bound, higher = some bound → limit ≤ bound)
    (ended : production.runFrom patience stand = some short) (cut : short.isCutShort = true) :
    (production.withLimit higher).Continues stand short := by
  induction patience, stand, ended using runInduction with
  | ended patience stand stepped =>
      exact continues_here ((ends_of_step stepped).of_isCutShort cut).1
  | went patience stand statement target next stepped further continues =>
      exact continues.cons (went_raise limited above stepped)

end Production

end Playhouse
