/-
Module: Playhouse.Proofs.Soundness
Purpose: A play that is understood never asks for a character whom it has not
  declared, whatever its input and however it jumps.
Main exports: WellSaid, wellSaid_of_readSource, MishapCause.isExpected, Production.CastIn,
  performance_of_readSource
-/
import Playhouse.Performance.Limit
import Playhouse.Play
import Playhouse.Proofs.Labels
import Playhouse.Proofs.Performance
import Playhouse.Proofs.Prologue

namespace Playhouse

open Text

/-!
Reading a play keeps its declarations in front and its statements about declared
characters.  Performing it keeps an invariant: those who have a number are those
declared before the position reached.  A jump leads to a scene, and all
declarations stand before every scene, so that no jump breaks the invariant.
-/

/-! ### Plays that are understood -/

/-- Statements that can be performed without asking for a stranger. -/
structure WellSaid (statements : List Statement) : Prop where
  first : DeclarationsFirst statements
  sayable : ∀ statement ∈ statements, statement.action.Sayable (declaredNames statements)

theorem wellSaid_of_readTokens {vocabulary : Vocabulary} {tokens : List Token}
    {statements : List Statement} (understood : readTokens vocabulary tokens = .ok statements) :
    WellSaid statements := by
  obtain ⟨final, _, passed⟩ := passage_of_readTokens understood
  have prologue := Reading.prologue_of_passage passed
  have inOrder := Reading.inOrder_of_passage passed
  refine ⟨prologue.first, ?_⟩
  intro statement member
  exact (inOrder.told statement member).mono fun name => (prologue.declared name).mp

/-- Whatever is understood is well said. -/
theorem wellSaid_of_readSource {vocabulary : Vocabulary} {source : String}
    {statements : List Statement} (understood : readSource vocabulary source = .ok statements) :
    WellSaid statements := by
  unfold readSource at understood
  split at understood
  · cases understood
  · exact wellSaid_of_readTokens understood

/-! ### Mishaps to be expected -/

/-- Whether a cause may stop a play that is well said: neither a stranger nor something
without a value is asked for, and the output is taken. -/
def MishapCause.isExpected : MishapCause → Bool
  | undeclared _ | noValue _ | refused _ => false
  | _ => true

theorem isExpected_of_isArithmetic {cause : MishapCause} (arithmetic : cause.isArithmetic) :
    cause.isExpected := by
  cases cause <;> first | rfl | cases arithmetic

theorem Expr.Sayable.not_hasForeign {declared : NameSet} {expression : Expr}
    (sayable : expression.Sayable declared) : expression.hasForeign = false := by
  induction expression with
  | character name line => rfl
  | number value line => rfl
  | unary operation operand line inductionHypothesis => exact inductionHypothesis sayable
  | binary operation lhs rhs line leftHypothesis rightHypothesis =>
      simp only [Expr.hasForeign, leftHypothesis sayable.1, rightHypothesis sayable.2, Bool.or_self]
  | foreign transcript line => exact sayable.elim

/-- A sayable expression about characters with numbers fails only in its
arithmetic. -/
theorem isExpected_of_evaluate {declared : NameSet} {store : Store}
    (present : ∀ name ∈ declared, some name ∈ store.keys) {expression : Expr}
    (sayable : expression.Sayable declared) {mishap : Mishap}
    (failed : expression.evaluate store = .error mishap) : mishap.cause.isExpected := by
  rcases cause_of_evaluate failed with arithmetic | ⟨name, named, _, unknown⟩ | ⟨_, foreign⟩
  · exact isExpected_of_isArithmetic arithmetic
  · obtain ⟨known, isDeclared, rfl⟩ := sayable.names named
    exact absurd (present known isDeclared) unknown
  · rw [sayable.not_hasForeign] at foreign
    cases foreign

/-! ### The cast of a performance -/

section

variable {σ : Type} {statements : List Statement}

/-- Those who have a number are those declared before the position reached. -/
def CastIn (statements : List Statement) (stand : Stand σ) : Prop :=
  ∀ name, name ∈ stand.house.store.keys ↔
    ∃ known ∈ declaredNames (statements.take stand.position), name = some known

/-- A sayable statement that declares nobody writes only to those declared. -/
theorem written_of_sayable {action : Action} {declared : NameSet}
    (sayable : action.Sayable declared) (declaresNobody : action.declared? = none)
    {name : Option String} (written : action.written? = some name) :
    ∃ known ∈ declared, name = some known := by
  cases action with
  | scanNumber other => exact ⟨other, sayable, (Option.some.inj written).symm⟩
  | scanCharacter other => exact ⟨other, sayable, (Option.some.inj written).symm⟩
  | pop other => exact ⟨other, sayable, (Option.some.inj written).symm⟩
  | assign target line value =>
      obtain rfl := Option.some.inj written
      exact sayable.1
  | declare other => cases declaresNobody
  | _ => cases written

variable {provider : Provider σ} {limit : Option Int} {stand next : Stand σ}
  {statement : Statement} {target : Option Nat}

theorem here_of_goes
    (goes : (Production.ofStatements provider limit statements).Goes stand statement target next) :
    statements[stand.position]? = some statement :=
  List.getElem?_toArray.symm.trans goes.here

/-- A declaration adds its character to the cast. -/
theorem CastIn.declare (cast : CastIn statements stand)
    (goes : (Production.ofStatements provider limit statements).Goes stand statement target next)
    {name : String} (declares : statement.action = .declare name) : CastIn statements next := by
  have position : next.position = stand.position + 1 := by
    rw [goes.position]
    cases target with
    | none => rfl
    | some elsewhere =>
        obtain ⟨tag, jumps, _⟩ := goes.performs.jumps
        rw [declares] at jumps
        cases jumps
  intro other
  rw [goes.performs.mem_keys, declares, cast other, position]
  simp only [mem_declaredNames_take_succ (here_of_goes goes), declares]
  constructor
  · rintro (isDeclared | ⟨known, wasDeclared, isKnown⟩)
    · exact ⟨name, Or.inl rfl, (Option.some.inj isDeclared).symm⟩
    · exact ⟨known, Or.inr wasDeclared, isKnown⟩
  · rintro ⟨known, isDeclared | wasDeclared, rfl⟩
    · exact Or.inl (congrArg some isDeclared)
    · exact Or.inr ⟨known, wasDeclared, rfl⟩

/-- Behind the declarations the cast is complete, wherever the play goes next. -/
theorem declaredNames_take_next (wellSaid : WellSaid statements)
    (goes : (Production.ofStatements provider limit statements).Goes stand statement target next)
    (declaresNobody : statement.action.declared? = none) {name : String} :
    name ∈ declaredNames (statements.take next.position) ↔ name ∈ declaredNames statements := by
  rw [goes.position]
  cases target with
  | none =>
      have here := here_of_goes goes
      rw [Option.getD_none, mem_declaredNames_take_succ here, declaresNobody,
        declaredNames_take wellSaid.first here declaresNobody]
      simp
  | some position =>
      -- All declarations stand before the scene that is jumped to.
      obtain ⟨tag, _, found⟩ := goes.performs.jumps
      obtain ⟨scene, there, isScene⟩ := (Labels.get?_ofStatements.mp found).opens
      have noDeclaration : scene.action.declared? = none := by
        rw [isScene]
        rfl
      rw [Option.getD_some, declaredNames_take wellSaid.first there noDeclaration]

/-- Any other statement leaves the cast as it is. -/
theorem CastIn.other (cast : CastIn statements stand) (wellSaid : WellSaid statements)
    (goes : (Production.ofStatements provider limit statements).Goes stand statement target next)
    (declaresNobody : statement.action.declared? = none) : CastIn statements next := by
  have here := here_of_goes goes
  have complete := declaredNames_take wellSaid.first here declaresNobody
  have sayable := wellSaid.sayable statement (List.mem_of_getElem? here)
  intro name
  rw [goes.performs.mem_keys, cast name, complete]
  simp only [declaredNames_take_next wellSaid goes declaresNobody]
  constructor
  · rintro (written | isCast)
    · exact written_of_sayable sayable declaresNobody written
    · exact isCast
  · exact Or.inr

theorem CastIn.goes (cast : CastIn statements stand) (wellSaid : WellSaid statements)
    (goes : (Production.ofStatements provider limit statements).Goes stand statement target
      next) : CastIn statements next := by
  cases declares : statement.action with
  | declare name => exact cast.declare goes declares
  | _ => exact cast.other wellSaid goes (by rw [declares]; rfl)

/-- At every stand of a performance those who have a number are those declared
before. -/
theorem castIn_of_reaches (wellSaid : WellSaid statements) {input : σ}
    (reached : (Production.ofStatements provider limit statements).Reaches
      (Production.opening [] input) stand) : CastIn statements stand := by
  induction reached with
  | here =>
      intro name
      simp [Production.opening, House.opening, Ledger.keys, declaredNames]
  | step reached goes inductionHypothesis => exact inductionHypothesis.goes wellSaid goes

/-! ### How a performance ends -/

/-- A piece is refused as text only for the length of its number. -/
theorem isExpected_of_text {piece : Piece} {outside after : σ} {refusal : Refusal}
    (taken : (Sink.text : Sink σ).take piece outside = (.error refusal, after)) :
    refusal.cause.isExpected := by
  have refused : piece.text = .error refusal := congrArg Prod.fst taken
  unfold Piece.text at refused
  split at refused
  · split at refused
    · cases refused
    · cases refused
      rfl
  · cases refused

/-- A statement that fails among its cast fails for an expected cause. -/
theorem isExpected_of_fails {labels : Labels} {house after : House σ} {mishap : Mishap}
    {declared : NameSet} (present : ∀ name ∈ declared, some name ∈ house.store.keys)
    (sayable : statement.action.Sayable declared)
    (fails : House.Fails provider .text labels house statement mishap after) :
    mishap.cause.isExpected := by
  cases fails with
  | scanNumber action unread => rfl
  | @unknown name action unknown =>
      have isDeclared : name ∈ declared := by
        rcases action with action | action
        · rw [action] at sayable
          exact sayable
        · rw [action] at sayable
          exact sayable
      exact absurd (present name isDeclared) (Ledger.get?_eq_none_iff.mp unknown)
  | printNumber action known refused => exact isExpected_of_text refused
  | refused action known printable refused => exact isExpected_of_text refused
  | @printCharacter name value action known unprintable =>
      rcases quoting_cases value (.unprintable value) with quoted | unwritten
      · simp only [quoted, MishapCause.isExpected]
      · simp only [unwritten, MishapCause.isExpected]
  | push action failed =>
      rw [action] at sayable
      exact isExpected_of_evaluate present sayable.2 failed
  | pop action empty => rfl
  | assign action failed =>
      rw [action] at sayable
      exact isExpected_of_evaluate present sayable.2 failed
  | jump action nowhere => rfl
  | leftSide action failed =>
      rw [action] at sayable
      exact isExpected_of_evaluate present sayable.1 failed
  | rightSide action left failed =>
      rw [action] at sayable
      exact isExpected_of_evaluate present sayable.2 failed
  | jumpIf action left right holds nowhere => rfl

/-- A declaration never fails. -/
theorem declaresNobody_of_fails {sink : Sink σ} {labels : Labels} {house after : House σ}
    {mishap : Mishap} (fails : House.Fails provider sink labels house statement mishap after) :
    statement.action.declared? = none := by
  cases fails with
  | unknown action unknown => rcases action with action | action <;> rw [action] <;> rfl
  | scanNumber action | printNumber action | refused action | printCharacter action | push action
  | pop action | assign action | jump action | leftSide action | rightSide action | jumpIf action =>
      rw [action]
      rfl

/-- A performance of what is well said ends well, with the whole cast, or for an
expected cause. -/
theorem outcome_of_ends (wellSaid : WellSaid statements) (cast : CastIn statements stand)
    {ending : Ending σ}
    (ends : (Production.ofStatements provider limit statements).Ends stand ending) :
    match ending.outcome with
    | .ok _ => ∀ name, name ∈ ending.house.store.keys ↔
        ∃ known ∈ declaredNames statements, name = some known
    | .error mishap => mishap.cause.isExpected := by
  cases ends with
  | finished past =>
      have finished : statements.length ≤ stand.position := by
        simpa [Production.ofStatements] using past
      intro name
      rw [cast name, List.take_of_length_le finished]
  | limited here isLimit exceeded => rfl
  | @failed statement mishap after here within fails =>
      have found : statements[stand.position]? = some statement :=
        List.getElem?_toArray.symm.trans here
      have complete :=
        declaredNames_take wellSaid.first found (declaresNobody_of_fails fails)
      have present : ∀ name ∈ declaredNames statements, some name ∈ stand.house.store.keys := by
        intro name isDeclared
        rw [cast (some name), complete]
        exact ⟨name, isDeclared, rfl⟩
      have sayable := wellSaid.sayable statement (List.mem_of_getElem? found)
      refine isExpected_of_fails ?_ sayable fails
      exact present

/-- Expected causes are reported in five families, or as a number too long. -/
theorem failure_of_isExpected {mishap : Mishap} (expected : mishap.cause.isExpected) :
    mishap.failure = .digitLimit ∨
      ∃ diagnostic, mishap.failure = .diagnosed diagnostic ∧
        diagnostic.kind ∈ ["UnresolvedLabel", "ArithmeticFault", "EmptyStack", "InputExhausted",
          "StepLimitExceeded"] := by
  obtain ⟨cause, line⟩ := mishap
  cases cause with
  | undeclared name | noValue message | refused breakdown => cases expected
  | digitLimit => exact Or.inl rfl
  | stepLimit limit =>
      unfold Mishap.failure
      dsimp only
      split
      · exact Or.inr ⟨_, rfl, by simp⟩
      · exact Or.inl rfl
  | _ => exact Or.inr ⟨_, rfl, by simp [InputFault.diagnostic]⟩

end

/-- A play that is understood never fails for a stranger or for something without a
value.  Whatever its input and its limit, a performance that ends ends well, with a
number for exactly the characters declared, or with one of five kinds of faults, or
because a number is too long to be written.  A performance with a limit ends. -/
theorem performance_of_readSource {vocabulary : Vocabulary} {source : String}
    {statements : List Statement} (understood : readSource vocabulary source = .ok statements)
    {σ : Type} (provider : Provider σ) (limit : Option Int) (input : σ) :
    (∀ patience ending,
      (Production.ofStatements provider limit statements).run patience input = some ending →
      match ending.result with
      | .ok success => ∀ name, name ∈ success.store.keys ↔
          ∃ known ∈ declaredNames statements, name = some known
      | .error failure => failure = .digitLimit ∨
          ∃ diagnostic, failure = .diagnosed diagnostic ∧ diagnostic.kind ∈
            ["UnresolvedLabel", "ArithmeticFault", "EmptyStack", "InputExhausted",
              "StepLimitExceeded"]) ∧
    (∀ budget, limit = some budget →
      ((Production.ofStatements provider limit statements).run (budget.toNat + 1)
        input).isSome) := by
  have wellSaid := wellSaid_of_readSource understood
  constructor
  · intro patience ending ended
    obtain ⟨last, reached, ends⟩ := Production.reaches_of_run ended
    have outcome := outcome_of_ends wellSaid (castIn_of_reaches wellSaid reached) ends
    unfold Ending.result
    cases ended : ending.outcome with
    | ok done =>
        rw [ended] at outcome
        exact outcome
    | error mishap =>
        rw [ended] at outcome
        exact failure_of_isExpected outcome
  · rintro budget rfl
    exact Production.runFrom_isSome rfl _ _ (by omega) (by omega)

/-- Two characters, one of whom repeats for ever what the other has in mind. -/
def repetition : String :=
  "P.\nRomeo.\nAjax.\nAct I: a.\nScene I: a.\n[Enter Romeo and Ajax]\n" ++
    "Ajax: Open your heart! Let us return to scene I."

def repetitionWords : Vocabulary :=
  ⟨[(.character, .ok (WordList.ofWords ["Romeo", "Ajax"])),
    (.secondPersonPossessive, .ok (WordList.ofWords ["your"]))]⟩

/-- Without input and with a limit of nine statements the repetition ends, and it
does not fail for a stranger. -/
theorem performance_of_repetition :
    ∃ statements, readSource repetitionWords repetition = .ok statements ∧
      declaredNames statements = ["Romeo", "Ajax"] ∧
      ∃ ending,
        (Production.ofStatements Prompter.provider (some 9) statements).run 10 ⟨[], []⟩ =
          some ending ∧
        ∀ diagnostic, ending.result = .error (.diagnosed diagnostic) →
          diagnostic.kind ∈ ["UnresolvedLabel", "ArithmeticFault", "EmptyStack",
            "InputExhausted", "StepLimitExceeded"] := by
  have read : (readSource repetitionWords repetition).toOption.map declaredNames =
      some ["Romeo", "Ajax"] := by decide +kernel
  cases understood : readSource repetitionWords repetition with
  | error fault =>
      rw [understood] at read
      cases read
  | ok statements =>
      rw [understood] at read
      obtain ⟨ends, patient⟩ := performance_of_readSource understood Prompter.provider (some 9)
        ⟨[], []⟩
      obtain ⟨ending, ended⟩ := Option.isSome_iff_exists.mp (patient 9 rfl)
      refine ⟨statements, rfl, Option.some.inj read, ending, ended, ?_⟩
      intro diagnostic failed
      have result := ends 10 ending ended
      rw [failed] at result
      rcases result with tooLong | ⟨other, same, expected⟩
      · cases tooLong
      · cases same
        exact expected

end Playhouse
