/-
Module: Playhouse.Proofs.LinelessReading
Purpose: Reading a play without lines gives what reading it gives, lines left out.
Main exports: Token.unlined, Reading.unlined, Consulting.Forgets, forgets_readExpression,
  Reading.forgets_part, Reading.forgets_course, readTokens_unlined
-/
import Playhouse.Proofs.Passage

namespace Playhouse

/-!
Tokens carry their lines into expressions, statements and faults.  Every reader below
is given its tokens once with their lines and once without, and what it gives without
them is what it gives with them after the lines are forgotten: no choice is made by a
line.
-/

/-! ### Tokens and faults without lines -/

/-- A token with its line forgotten. -/
def Token.unlined (token : Token) : Token :=
  ⟨token.kind, 0⟩

/-- A fault with its line forgotten. -/
def ParseFault.unlined (fault : ParseFault) : ParseFault :=
  ⟨fault.cause, 0⟩

def ReadFault.unlined : ReadFault → ReadFault
  | lexicon fault => lexicon fault
  | parse fault => parse fault.unlined

/-- A result with the lines of its value and of its fault forgotten. -/
def forgetting {α β ε : Type} (forget : α → β) (forgetFault : ε → ε) :
    Except ε α → Except ε β
  | .ok value => .ok (forget value)
  | .error fault => .error (forgetFault fault)

theorem unlined_of_kind {tokens others : List Token}
    (same : tokens.map Token.kind = others.map Token.kind) :
    tokens.map Token.unlined = others.map Token.unlined := by
  have factors (list : List Token) :
      list.map Token.unlined = (list.map Token.kind).map fun kind => ⟨kind, 0⟩ := by
    rw [List.map_map]
    rfl
  rw [factors, factors, same]

namespace Consulting

variable {α β γ δ : Type}

/-- A computation that gives without lines what another one gives with them. -/
def Forgets (forget : α → β) (computation : Consulting α) (lineless : Consulting β) : Prop :=
  lineless.outcome = forgetting forget ReadFault.unlined computation.outcome

theorem forgets_pure {forget : α → β} (value : α) :
    Forgets forget (pure value) (pure (forget value)) := rfl

theorem forgets_fail {forget : α → β} (cause : ParseCause) (line : Nat) :
    Forgets forget (fail cause line) (fail cause 0) := rfl

theorem forgets_ofExcept {forget : α → β} {result : Except ParseFault α}
    {lineless : Except ParseFault β}
    (forgets : lineless = forgetting forget ParseFault.unlined result) :
    Forgets forget (ofExcept result) (ofExcept lineless) := by
  subst forgets
  cases result <;> rfl

theorem forgets_bind {forget : α → β} {forgetLater : γ → δ} {first : Consulting α}
    {second : α → Consulting γ} {linelessFirst : Consulting β}
    {linelessSecond : β → Consulting δ} (firstForgets : Forgets forget first linelessFirst)
    (secondForgets : ∀ value,
      Forgets forgetLater (second value) (linelessSecond (forget value))) :
    Forgets forgetLater (first >>= second) (linelessFirst >>= linelessSecond) := by
  unfold Forgets at firstForgets ⊢
  rw [outcome_bind, outcome_bind, firstForgets]
  cases first.outcome with
  | error fault => rfl
  | ok value => exact secondForgets value

/-- What asks for words only has no lines to forget. -/
theorem forgets_categoryOf (vocabulary : Vocabulary) (word : String) (categories : List Category) :
    Forgets id (vocabulary.categoryOf word categories)
      (vocabulary.categoryOf word categories) := by
  induction categories with
  | nil => rfl
  | cons category rest inductionHypothesis =>
      unfold Forgets at inductionHypothesis ⊢
      rw [Vocabulary.categoryOf, outcome_bind]
      cases listed : vocabulary.list category with
      | error fault =>
          simp [Vocabulary.consult, listed, forgetting, ReadFault.unlined]
      | ok list =>
          simp only [Vocabulary.consult, listed, mapError_ok]
          split
          · rfl
          · exact inductionHypothesis

end Consulting

open Consulting

/-! ### Phrases -/

theorem forgets_expectEnd (tokens : List Token) :
    expectEnd (tokens.map Token.unlined) =
      forgetting id ParseFault.unlined (expectEnd tokens) := by
  cases tokens <;> rfl

theorem forgets_addressee (company : Company) (line : Nat) :
    company.addressee 0 = forgetting id ParseFault.unlined (company.addressee line) := by
  unfold Company.addressee
  split <;> rfl

theorem splitOperands_unlined (depth : Nat) (tokens : List Token) :
    splitOperands depth (tokens.map Token.unlined) =
      (splitOperands depth tokens).map fun operands =>
        (operands.1.map Token.unlined, operands.2.map Token.unlined) := by
  induction tokens generalizing depth with
  | nil => rfl
  | cons token rest inductionHypothesis =>
      obtain ⟨kind, line⟩ := token
      simp only [List.map_cons, Token.unlined, splitOperands, inductionHypothesis, Option.map_map]
      split
      · split
        · rfl
        · rw [Option.map_map]
          rfl
      · rw [Option.map_map]
        rfl
      · rw [Option.map_map]
        rfl

/-- What stands first once lines are forgotten stood first before. -/
theorem cons_of_unlined_cons {tokens rest : List Token} {kind : TokenKind} {line : Nat}
    (same : tokens.map Token.unlined = ⟨kind, line⟩ :: rest) :
    ∃ lineBefore restBefore, tokens = ⟨kind, lineBefore⟩ :: restBefore ∧
      restBefore.map Token.unlined = rest := by
  cases tokens with
  | nil => cases same
  | cons token others =>
      obtain ⟨tokenKind, tokenLine⟩ := token
      cases same
      exact ⟨tokenLine, others, rfl, rfl⟩

theorem forgets_readNumeral (vocabulary : Vocabulary) (word : String) (line : Nat) (factor : Int)
    (rest : List Token) :
    Forgets Expr.unlined (readNumeral vocabulary word line factor rest)
      (readNumeral vocabulary word 0 factor (rest.map Token.unlined)) := by
  induction word, line, factor, rest using readNumeral.induct with
  | case1 word line factor second secondLine afterSecond afterPair afterNoun afterOther =>
      rw [List.map_cons, Token.unlined, readNumeral, readNumeral]
      refine forgets_bind (forgets_categoryOf vocabulary _ _) fun pair => ?_
      cases pair with
      | some category =>
          -- The noun took two words.  Whether a third one follows is a matter of kinds.
          have ended := forgets_ofExcept (forgets_expectEnd afterSecond)
          dsimp only [id]
          split at afterPair
          · exact afterPair
          · rename_i noWord
            split
            · rename_i isWord
              obtain ⟨_, _, isWordBefore, -⟩ := cons_of_unlined_cons isWord
              exact (noWord _ _ _ isWordBefore).elim
            · exact forgets_bind ended fun _ => rfl
      | none =>
          refine forgets_bind (forgets_categoryOf vocabulary _ _) fun single => ?_
          cases single with
          | some category => exact afterNoun
          | none => exact afterOther
  | case2 word line factor remaining noWord =>
      rw [readNumeral, readNumeral]
      · refine forgets_bind (forgets_categoryOf vocabulary _ _) fun category => ?_
        exact forgets_bind (forgets_ofExcept (forgets_expectEnd remaining)) fun _ => rfl
      · intro other otherLine others isWord
        obtain ⟨_, _, isWordBefore, -⟩ := cons_of_unlined_cons isWord
        exact noWord _ _ _ isWordBefore
      · exact noWord

section

variable {vocabulary : Vocabulary} {company : Company} {endLine line : Nat} {factor : Int}
  {operation : BinaryOperation} {rest : List Token}

/-- A binary operation without its conjunction is refused. -/
theorem readExpression_unsplit (noSplit : splitOperands 0 rest = none) :
    readExpression vocabulary company endLine factor
        (⟨.lexeme (.binary operation), line⟩ :: rest) =
      Consulting.fail .conjunctionMissing line := by
  rw [readExpression]
  split
  · rfl
  · rename_i found
    rw [noSplit] at found
    cases found

/-- A binary operation is read from its two operands. -/
theorem readExpression_split {left right : List Token}
    (split : splitOperands 0 rest = some (left, right)) :
    readExpression vocabulary company endLine factor
        (⟨.lexeme (.binary operation), line⟩ :: rest) = (do
      let lhs ← readExpression vocabulary company endLine 1 left
      let rhs ← readExpression vocabulary company endLine 1 right
      pure (.binary operation lhs rhs line)) := by
  rw [readExpression]
  split
  · rename_i noSplit
    rw [split] at noSplit
    cases noSplit
  · rename_i found
    rw [split] at found
    cases found
    rfl

end

theorem forgets_readExpression (vocabulary : Vocabulary) (company : Company) (endLine : Nat)
    (factor : Int) (tokens : List Token) :
    Forgets Expr.unlined (readExpression vocabulary company endLine factor tokens)
      (readExpression vocabulary company 0 factor (tokens.map Token.unlined)) := by
  induction factor, tokens using readExpression.induct with
  | case1 factor =>
      rw [List.map_nil, readExpression, readExpression]
      rfl
  | case2 factor line rest | case3 factor line rest =>
      rw [List.map_cons, Token.unlined, readExpression, readExpression]
      refine forgets_bind (forgets_ofExcept (forgets_expectEnd rest)) fun _ => ?_
      exact forgets_bind (forgets_ofExcept (forgets_addressee company line)) fun _ => rfl
  | case4 factor line rest | case5 factor line rest =>
      rw [List.map_cons, Token.unlined, readExpression, readExpression]
      exact forgets_bind (forgets_ofExcept (forgets_expectEnd rest)) fun _ => rfl
  | case6 factor line rest name =>
      rw [List.map_cons, Token.unlined, readExpression, readExpression]
      refine forgets_bind (forgets_ofExcept (forgets_expectEnd rest)) fun _ => ?_
      split <;> rfl
  | case7 factor line rest operation inner =>
      rw [List.map_cons, Token.unlined, readExpression, readExpression]
      exact forgets_bind inner fun _ => rfl
  | case8 factor line rest operation noSplit =>
      have linelessSplit := splitOperands_unlined 0 rest
      rw [noSplit] at linelessSplit
      rw [List.map_cons, Token.unlined, readExpression_unsplit noSplit,
        readExpression_unsplit linelessSplit]
      rfl
  | case9 factor line rest operation operands split left right =>
      have linelessSplit := splitOperands_unlined 0 rest
      rw [split] at linelessSplit
      rw [List.map_cons, Token.unlined, readExpression_split split,
        readExpression_split linelessSplit]
      exact forgets_bind left fun _ => forgets_bind right fun _ => rfl
  | case10 factor line rest inner | case11 factor line rest inner
  | case12 factor line rest inner =>
      rw [List.map_cons, Token.unlined, readExpression, readExpression]
      exact inner
  | case13 factor line rest word =>
      rw [List.map_cons, Token.unlined, readExpression, readExpression]
      exact forgets_readNumeral vocabulary word line factor rest
  | case14 factor line rest other =>
      rw [List.map_cons, Token.unlined, readExpression, readExpression]
      · rfl
      all_goals assumption

/-! ### Sentences and questions -/

theorem afterPunctuation?_unlined (tokens : List Token) :
    afterPunctuation? (tokens.map Token.unlined) =
      (afterPunctuation? tokens).map (List.map Token.unlined) := by
  induction tokens with
  | nil => rfl
  | cons token rest inductionHypothesis =>
      rw [List.map_cons, afterPunctuation?, afterPunctuation?, inductionHypothesis]
      have sameMark : token.unlined.isPunctuation = token.isPunctuation := rfl
      rw [sameMark]
      split <;> rfl

def Sentence.unlined (sentence : Sentence) : Sentence :=
  ⟨sentence.words.map Token.unlined, 0, sentence.rest.map Token.unlined⟩

def Query.unlined (query : Query) : Query :=
  ⟨query.lhs.map Token.unlined, query.comparison, query.rhs.map Token.unlined, 0,
    query.rest.map Token.unlined⟩

theorem forgets_readSentence (startLine : Nat) (tokens : List Token) :
    readSentence 0 (tokens.map Token.unlined) =
      forgetting Sentence.unlined ParseFault.unlined (readSentence startLine tokens) := by
  induction tokens with
  | nil => rfl
  | cons token rest inductionHypothesis =>
      obtain ⟨kind, line⟩ := token
      rw [List.map_cons, Token.unlined, readSentence, readSentence, inductionHypothesis]
      dsimp only
      split
      · rfl
      · cases readSentence startLine rest <;> rfl
      · rfl

theorem forgets_readRightSide (startLine : Nat) (comparison : Comparison) (begun : Bool)
    (tokens : List Token) :
    readRightSide 0 comparison begun (tokens.map Token.unlined) =
      forgetting Query.unlined ParseFault.unlined
        (readRightSide startLine comparison begun tokens) := by
  induction tokens generalizing begun with
  | nil => rfl
  | cons token rest inductionHypothesis =>
      obtain ⟨kind, line⟩ := token
      rw [List.map_cons, Token.unlined, readRightSide, readRightSide, inductionHypothesis]
      dsimp only
      split
      · rfl
      · split <;> rfl
      · cases readRightSide startLine comparison true rest <;> rfl
      · rfl

theorem forgets_readLeftSide (startLine : Nat) (begun : Bool) (tokens : List Token) :
    readLeftSide 0 begun (tokens.map Token.unlined) =
      forgetting Query.unlined ParseFault.unlined (readLeftSide startLine begun tokens) := by
  induction tokens generalizing begun with
  | nil => rfl
  | cons token rest inductionHypothesis =>
      obtain ⟨kind, line⟩ := token
      rw [List.map_cons, Token.unlined, readLeftSide, readLeftSide, inductionHypothesis]
      dsimp only
      split
      · split
        · exact forgets_readRightSide startLine _ false rest
        · rfl
      · rfl
      · cases readLeftSide startLine true rest <;> rfl
      · rfl

namespace Reading

theorem forgets_afterIntroduction (tokens : List Token) :
    afterIntroduction (tokens.map Token.unlined) =
      forgetting (List.map Token.unlined) ParseFault.unlined (afterIntroduction tokens) := by
  fun_cases afterIntroduction tokens with
  | case1 beLine line rest => rfl
  | case2 beLine comparison line rest unequal =>
      rw [List.map_cons, List.map_cons, Token.unlined, Token.unlined, afterIntroduction,
        if_neg unequal]
      rfl
  | case3 beLine rest notCompared =>
      rw [List.map_cons, Token.unlined, afterIntroduction]
      · rfl
      · intro comparison line others compares
        obtain ⟨_, _, comparesBefore, -⟩ := cons_of_unlined_cons compares
        exact notCompared _ _ _ comparesBefore
  | case4 tokens notCompared notBe =>
      rw [afterIntroduction]
      · rfl
      · intro beLine comparison line others compares
        obtain ⟨_, _, rfl, comparesBefore⟩ := cons_of_unlined_cons compares
        exact notBe _ _ rfl
      · intro beLine others introduced
        obtain ⟨_, _, introducedBefore, -⟩ := cons_of_unlined_cons introduced
        exact notBe _ _ introducedBefore

/-! ### Parts -/

/-- A reading with all its lines forgotten. -/
def unlined (reading : Reading) : Reading :=
  { reading with
    question := reading.question.map Question.unlined
    rest := reading.rest.map Token.unlined }

/-- What a part yields, with all lines forgotten. -/
def unlinedPart (yielded : Option Statement × Reading) : Option Statement × Reading :=
  (yielded.1.map Statement.unlined, yielded.2.unlined)

theorem forgets_silent (after : Reading) :
    Forgets unlinedPart (silent after) (silent after.unlined) :=
  forgets_pure _

theorem forgets_stating (action : Action) (line : Nat) (after : Reading) :
    Forgets unlinedPart (stating action line after)
      (stating action.unlined 0 after.unlined) :=
  forgets_pure _

variable {vocabulary : Vocabulary} (reading : Reading)

theorem forgets_readTitle (tokens : List Token) :
    Forgets unlinedPart (reading.readTitle tokens)
      (reading.unlined.readTitle (tokens.map Token.unlined)) := by
  unfold readTitle
  rw [afterPunctuation?_unlined]
  cases afterPunctuation? tokens with
  | some rest => rfl
  | none =>
      -- What is missing is reported on the line of the last token.
      have lineless :
          ((tokens.map Token.unlined).getLast?.map Token.line).getD 0 = 0 := by
        rw [List.getLast?_map]
        cases tokens.getLast? <;> rfl
      simp only [Option.map_none, lineless]
      exact forgets_fail _ _

theorem forgets_readDeclaration (token : Token) (rest : List Token) :
    Forgets unlinedPart (reading.readDeclaration token rest)
      (reading.unlined.readDeclaration token.unlined (rest.map Token.unlined)) := by
  obtain ⟨kind, line⟩ := token
  unfold readDeclaration
  rw [afterPunctuation?_unlined]
  dsimp only [Token.unlined]
  split
  · cases afterPunctuation? rest <;> rfl
  · rfl

theorem forgets_readAct (token : Token) (rest : List Token) :
    Forgets unlinedPart (reading.readAct token rest)
      (reading.unlined.readAct token.unlined (rest.map Token.unlined)) := by
  obtain ⟨kind, line⟩ := token
  cases kind <;> rfl

theorem forgets_readScene (token : Token) (rest : List Token) :
    Forgets unlinedPart (reading.readScene token rest)
      (reading.unlined.readScene token.unlined (rest.map Token.unlined)) := by
  obtain ⟨kind, line⟩ := token
  cases kind <;> rfl

theorem forgets_readDirection (token : Token) (rest : List Token) :
    Forgets unlinedPart (reading.readDirection token rest)
      (reading.unlined.readDirection token.unlined (rest.map Token.unlined)) := by
  obtain ⟨kind, line⟩ := token
  have sameCompany : reading.unlined.company = reading.company := rfl
  unfold readDirection
  dsimp only [Token.unlined]
  rw [sameCompany]
  split
  · split <;> rfl
  · rfl
  · split <;> rfl
  · rfl

theorem forgets_readSpeaker (token : Token) (rest : List Token) :
    Forgets unlinedPart (reading.readSpeaker token rest)
      (reading.unlined.readSpeaker token.unlined (rest.map Token.unlined)) := by
  obtain ⟨kind, line⟩ := token
  have sameCompany : reading.unlined.company = reading.company := rfl
  unfold readSpeaker
  dsimp only [Token.unlined]
  rw [sameCompany]
  split
  · rfl
  · split
    · split <;> rfl
    · rfl

theorem forgets_readAddress (line : Nat) (rest : List Token) {action : String → Action}
    (lineless : ∀ name, (action name).unlined = action name) :
    Forgets unlinedPart (reading.readAddress line rest action)
      (reading.unlined.readAddress 0 (rest.map Token.unlined) action) := by
  refine forgets_bind (forgets_ofExcept (forgets_addressee reading.company line)) fun name => ?_
  have stated := forgets_stating (action name) line { reading with rest := rest }
  rw [lineless] at stated
  exact stated

theorem forgets_readPush (line : Nat) (rest : List Token) :
    Forgets unlinedPart (readPush vocabulary reading line rest)
      (readPush vocabulary reading.unlined 0 (rest.map Token.unlined)) := by
  refine forgets_bind (forgets_ofExcept (forgets_readSentence line rest)) fun sentence => ?_
  refine forgets_bind
    (forgets_readExpression vocabulary reading.company sentence.endLine 1 sentence.words)
    fun value => ?_
  exact forgets_bind (forgets_ofExcept (forgets_addressee reading.company line)) fun name =>
    forgets_stating (.push name value) line { reading with rest := sentence.rest }

theorem forgets_readConditionalJump (affirmed : Bool) (target : String) (line : Nat)
    (rest : List Token) :
    Forgets unlinedPart (reading.readConditionalJump affirmed target line rest)
      (reading.unlined.readConditionalJump affirmed target 0 (rest.map Token.unlined)) := by
  obtain ⟨state, act, scene, company, question, tokens⟩ := reading
  cases question <;> cases affirmed <;> rfl

theorem forgets_readAssignment (line : Nat) (rest : List Token) :
    Forgets unlinedPart (readAssignment vocabulary reading line rest)
      (readAssignment vocabulary reading.unlined 0 (rest.map Token.unlined)) := by
  refine forgets_bind (forgets_ofExcept (forgets_addressee reading.company line)) fun name => ?_
  refine forgets_bind (forgets_ofExcept (forgets_afterIntroduction rest)) fun tokens => ?_
  refine forgets_bind (forgets_ofExcept (forgets_readSentence line tokens)) fun sentence => ?_
  exact forgets_bind
    (forgets_readExpression vocabulary reading.company sentence.endLine 1 sentence.words)
    fun value => forgets_stating (.assign (some name) line value) line
      { reading with rest := sentence.rest }

theorem forgets_readQuestion (line : Nat) (rest : List Token) :
    Forgets unlinedPart (readQuestion vocabulary reading line rest)
      (readQuestion vocabulary reading.unlined 0 (rest.map Token.unlined)) := by
  have samePending : reading.unlined.question.isSome = reading.question.isSome :=
    Option.isSome_map
  unfold readQuestion
  rw [samePending]
  split
  · rfl
  · refine forgets_bind (forgets_ofExcept (forgets_readLeftSide line false rest)) fun query => ?_
    refine forgets_bind
      (forgets_readExpression vocabulary reading.company query.endLine 1 query.lhs)
      fun lhs => ?_
    exact forgets_bind
      (forgets_readExpression vocabulary reading.company query.endLine 1 query.rhs)
      fun rhs => forgets_silent _

theorem forgets_readDialogue (token : Token) (rest : List Token) :
    Forgets unlinedPart (readDialogue vocabulary reading token rest)
      (readDialogue vocabulary reading.unlined token.unlined (rest.map Token.unlined)) := by
  obtain ⟨kind, line⟩ := token
  unfold readDialogue
  dsimp only [Token.unlined]
  split
  · exact reading.forgets_readAddress line rest fun _ => rfl
  · exact reading.forgets_readAddress line rest fun _ => rfl
  · exact reading.forgets_readAddress line rest fun _ => rfl
  · exact reading.forgets_readAddress line rest fun _ => rfl
  · exact reading.forgets_readAddress line rest fun _ => rfl
  · exact reading.forgets_readPush line rest
  · exact forgets_stating _ line _
  · exact reading.forgets_readConditionalJump _ _ line rest
  · exact reading.forgets_readAssignment line rest
  · exact reading.forgets_readQuestion line rest
  · rfl

/-- A part reads without lines what it reads with them. -/
theorem forgets_part (vocabulary : Vocabulary) (reading : Reading) :
    Forgets unlinedPart (part vocabulary reading) (part vocabulary reading.unlined) := by
  obtain ⟨state, act, scene, company, question, tokens⟩ := reading
  cases tokens with
  | nil => rfl
  | cons token rest =>
      cases state with
      | start => rfl
      | title => exact forgets_readTitle _ (token :: rest)
      | characterDeclaration => exact forgets_readDeclaration _ token rest
      | act => exact forgets_readAct _ token rest
      | scene => exact forgets_readScene _ token rest
      | stage => exact forgets_readDirection _ token rest
      | characterSpeaking => exact forgets_readSpeaker _ token rest
      | dialogue => exact forgets_readDialogue _ token rest

/-! ### Courses -/

/-- What follows a part, with all lines forgotten. -/
def unlinedStep (advanced : Reading × Option Transition) : Reading × Option Transition :=
  (advanced.1.unlined,
    advanced.2.map fun transition => { transition with token := transition.token.unlined })

theorem forgets_nextState (next : NextStates) (state : State) (token : Token) :
    nextState next state token.unlined =
      forgetting id ParseFault.unlined (nextState next state token) := by
  obtain ⟨kind, line⟩ := token
  unfold nextState
  dsimp only [Token.unlined]
  split <;> rfl

/-- The next part does not depend on lines. -/
theorem forgets_advance (next : NextStates) :
    advance next reading.unlined =
      forgetting unlinedStep ParseFault.unlined (advance next reading) := by
  obtain ⟨state, act, scene, company, question, tokens⟩ := reading
  cases tokens with
  | nil => rfl
  | cons token rest =>
      have decided := forgets_nextState next state token
      have sameKind : token.unlined.kind = token.kind := rfl
      simp only [advance, unlined, List.map_cons, sameKind]
      split
      · rfl
      · rfl
      · split
        · rfl
        · rw [decided]
          cases nextState next state token <;> rfl

theorem unlined_unfinished {reading : Reading} (unfinished : reading.rest ≠ []) :
    reading.unlined.rest ≠ [] :=
  fun finished => unfinished (List.map_eq_nil_iff.mp finished)

/-- Reading a play to its end gives without lines what it gives with them. -/
theorem forgets_course (next : NextStates) :
    (reading.unlined.course next vocabulary).outcome =
      forgetting (List.map Statement.unlined) ReadFault.unlined
        (reading.course next vocabulary).outcome := by
  -- Both courses take the same turns, since a part and the decision on the next one
  -- forget lines; the induction runs along the course with lines.
  induction reading using courseInduction next vocabulary with
  | finished reading finished =>
      have linelessFinished : reading.unlined.rest = [] := by
        rw [unlined, finished]
        rfl
      rw [course_finished finished, course_finished linelessFinished]
      rfl
  | failed reading fault unfinished failed =>
      have linelessFailed := forgets_part vocabulary reading
      rw [Forgets, failed] at linelessFailed
      rw [course_failed unfinished failed,
        course_failed (unlined_unfinished unfinished) linelessFailed]
      rfl
  | unfollowed reading statement middle fault unfinished read failed =>
      have linelessRead := forgets_part vocabulary reading
      have linelessFailed := middle.forgets_advance next
      rw [Forgets, read] at linelessRead
      rw [failed] at linelessFailed
      rw [course_unfollowed unfinished read failed,
        course_unfollowed (unlined_unfinished unfinished) linelessRead linelessFailed]
      rfl
  | turned reading statement middle after transition unfinished read advanced further =>
      have linelessRead := forgets_part vocabulary reading
      have linelessAdvanced := middle.forgets_advance next
      rw [Forgets, read] at linelessRead
      rw [advanced] at linelessAdvanced
      change advance next middle.unlined = .ok (after.unlined, _) at linelessAdvanced
      rw [course_turned unfinished read advanced,
        course_turned (unlined_unfinished unfinished) linelessRead linelessAdvanced,
        outcome_cons, outcome_cons, further]
      cases (after.course next vocabulary).outcome with
      | error fault => rfl
      | ok told => cases statement <;> rfl

end Reading

/-- A play is understood alike with and without its lines. -/
theorem readTokens_unlined (vocabulary : Vocabulary) (tokens : List Token) :
    readTokens vocabulary (tokens.map Token.unlined) =
      forgetting (List.map Statement.unlined) ReadFault.unlined (readTokens vocabulary tokens) :=
  (Reading.ofTokens tokens).forgets_course NextStates.standard

end Playhouse
