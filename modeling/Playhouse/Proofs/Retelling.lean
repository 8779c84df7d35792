/-
Module: Playhouse.Proofs.Retelling
Purpose: Every well-formed play can be told: tokens for it, and their reading.
Main exports: Outline.tokens, Reading.Tells, Reading.readTokens_of_tells, Reading.Retells,
  Reading.retells_sentence, Reading.retells_told, Reading.retells_scenes, readTokens_tokens
-/
import Playhouse.Proofs.Outline
import Playhouse.Proofs.Wording

namespace Playhouse

/-!
A play is put into tokens statement by statement.  For every statement the stage is
cleared, its listener enters with a partner, and the partner speaks.  Every scene
begins with an empty stage, also because no act may follow the bare heading of a
scene.
-/

/-! ### Tokens for a play -/

/-- The mark at the end of a sentence. -/
def endMark : Token := ⟨.lexeme .punctuation, 0⟩

/-- Somebody to speak to a listener: the first other character. -/
def partner (names : List String) (listener : String) : String :=
  (names.find? (· != listener)).getD listener

/-- The stage directions that let a partner speak to a listener. -/
def staging (names : List String) (listener : String) : List Token :=
  [⟨.exit [], 0⟩, ⟨.enter (NameSet.ofList [listener, partner names listener]), 0⟩,
    ⟨.speaking (partner names listener), 0⟩]

/-- The comparison to ask for, and the answer on which a jump has to depend, so that
a predicate is tested. -/
def Predicate.asked : Predicate → Comparison × Bool
  | equals => (.equals, true)
  | lessThan => (.lessThan, true)
  | greaterThan => (.greaterThan, true)
  | notEqual => (.equals, false)
  | lessEqual => (.greaterThan, false)
  | greaterEqual => (.lessThan, false)

/-- The tokens for a question, its verb included. -/
def Question.tokens (question : Question) : List Token :=
  ⟨.lexeme .be, 0⟩ :: (question.lhs.tokens ++
    ⟨.lexeme (.compare question.predicate.asked.1), 0⟩ :: (question.rhs.tokens ++ [endMark]))

/-- The number of a scene, given its tag and its act. -/
def numberIn (act tag : String) : String :=
  String.ofList (tag.toList.drop (act.toList.length + 1))

/-- The tokens of a speech that makes a statement, after its speaker. -/
def Action.sentence (act : String) : Action → List Token
  | scanNumber _ => [⟨.scanNumber, 0⟩]
  | scanCharacter _ => [⟨.scanCharacter, 0⟩]
  | printCharacter _ => [⟨.printCharacter, 0⟩]
  | printNumber _ => [⟨.printNumber, 0⟩]
  | pop _ => [⟨.popStack, 0⟩]
  | push _ value => ⟨.pushStack, 0⟩ :: (value.tokens ++ [endMark])
  | assign _ _ value =>
      ⟨.lexeme .secondPerson, 0⟩ :: ⟨.lexeme .be, 0⟩ :: (value.tokens ++ [endMark])
  | jump tag => [⟨.jump (numberIn act tag), 0⟩]
  | jumpIf question tag _ =>
      question.tokens ++ [⟨.conditionalJump question.predicate.asked.2 (numberIn act tag), 0⟩]
  | scene _ | declare _ | ask _ | remark _ => []

/-- The listener of a statement: whom it is aimed at, or the first character. -/
def Action.listener (names : List String) (action : Action) : String :=
  action.target?.join.getD (names.headD "")

/-- The tokens for one statement of a scene. -/
def Action.speech (names : List String) (act : String) (action : Action) : List Token :=
  staging names (action.listener names) ++ action.sentence act

/-- The tokens for a scene, from its heading on. -/
def Scene.tokens (names : List String) (scene : Scene) : List Token :=
  ⟨.scene scene.number "", 0⟩ :: ⟨.exit [], 0⟩ ::
    scene.told.flatMap fun statement => statement.action.speech names scene.act

/-- The tokens for scenes; an act has a heading where it begins. -/
def scenesTokens (names : List String) : Option String → List Scene → List Token
  | _, [] => []
  | current, scene :: rest =>
      (if current = some scene.act then [] else [⟨.act scene.act "", 0⟩]) ++
        (scene.tokens names ++ scenesTokens names (some scene.act) rest)

/-- The tokens for the declarations of characters. -/
def charactersTokens (characters : List (String × Nat)) : List Token :=
  characters.flatMap fun character => [⟨.lexeme (.character character.1), 0⟩, endMark]

/-- The tokens for a play: a title, its characters, and its scenes. -/
def Outline.tokens (outline : Outline) : List Token :=
  ⟨.lexeme (.other "Untitled"), 0⟩ :: endMark ::
    (charactersTokens outline.characters ++ scenesTokens outline.names none outline.scenes)

/-! ### Two characters on stage -/

/-- Whoever listens has a partner if there are two characters. -/
theorem partner_spec {names : List String} {first second : String} (hasFirst : first ∈ names)
    (hasSecond : second ∈ names) (differ : first ≠ second) (listener : String) :
    partner names listener ∈ names ∧ listener ≠ partner names listener := by
  have exists_other : ∃ other ∈ names, (other != listener) = true := by
    by_cases isFirst : first = listener
    · exact ⟨second, hasSecond, by simpa [← isFirst] using differ.symm⟩
    · exact ⟨first, hasFirst, by simpa using isFirst⟩
  obtain ⟨other, found⟩ := Option.isSome_iff_exists.mp (List.find?_isSome.mpr exists_other)
  have isOther : partner names listener = other := by rw [partner, found]; rfl
  rw [isOther]
  refine ⟨List.mem_of_find?_eq_some found, ?_⟩
  have differs := List.find?_some found
  simp only [bne_iff_ne] at differs
  exact differs.symm

/-- The listener of a statement is declared, and the statement is aimed at nobody
else. -/
theorem Action.listener_spec {names : List String} {action : Action}
    (sayable : action.Sayable names) (someName : names ≠ []) :
    action.listener names ∈ names ∧
      ∀ target, action.target? = some target → target = some (action.listener names) := by
  have headKnown : names.headD "" ∈ names := by
    obtain ⟨first, others, rfl⟩ := List.exists_cons_of_ne_nil someName
    exact List.mem_cons_self
  cases action with
  | scene tag | declare name | ask question | remark value | jump tag
  | jumpIf question tag line => exact ⟨headKnown, fun target aimed => by cases aimed⟩
  | scanNumber name | scanCharacter name | printCharacter name | printNumber name | pop name =>
      exact ⟨sayable, fun target aimed => by cases aimed; rfl⟩
  | push name value => exact ⟨sayable.1, fun target aimed => by cases aimed; rfl⟩
  | assign target line value =>
      obtain ⟨⟨known, isKnown, rfl⟩, valueSayable⟩ := sayable
      exact ⟨isKnown, fun target aimed => by cases aimed; rfl⟩

/-- Two who enter an empty stage are there alone. -/
theorem union_pair {listener speaker : String} (differ : listener ≠ speaker) :
    NameSet.union [] (NameSet.ofList [listener, speaker]) = [listener, speaker] ∨
      NameSet.union [] (NameSet.ofList [listener, speaker]) = [speaker, listener] := by
  by_cases less : listener < speaker
  · left
    simp [NameSet.union, NameSet.ofList, NameSet.insert, less]
  · right
    have greater := NameSet.lt_of_not_lt less differ
    simp [NameSet.union, NameSet.ofList, NameSet.insert, less, differ, greater]

namespace Reading

/-! ### From one part to the next -/

/-- What a reading tells from here to its end, where its last part is over and the
next is still to be decided on. -/
inductive Tells (vocabulary : Vocabulary) : Reading → List Statement → Prop where
  | finished {reading : Reading} (finished : reading.rest = []) : Tells vocabulary reading []
  | part {reading before after : Reading} {transition : Option Transition}
      {statement : Option Statement} {told : List Statement} (unfinished : reading.rest ≠ [])
      (advanced : advance NextStates.standard reading = .ok (before, transition))
      (read : (Reading.part vocabulary before).outcome = .ok (statement, after))
      (further : Tells vocabulary after told) :
      Tells vocabulary reading (statement.toList ++ told)

variable {vocabulary : Vocabulary}

/-- A course gives what is told after its first part. -/
theorem outcome_of_tells {reading middle : Reading} {statement : Option Statement}
    {told : List Statement} (tells : Tells vocabulary middle told) (unfinished : reading.rest ≠ [])
    (read : (part vocabulary reading).outcome = .ok (statement, middle)) :
    (reading.course NextStates.standard vocabulary).outcome = .ok (statement.toList ++ told) := by
  induction tells generalizing reading statement with
  | @finished middle finished =>
      have advanced : advance NextStates.standard middle = .ok (middle, none) := by
        rw [advance, finished]
      rw [course_turned unfinished read advanced, course_finished finished, outcome_cons]
      rfl
  | @part middle before after transition next told moreTokens advanced nextRead further
      inductionHypothesis =>
      have beforeUnfinished : before.rest ≠ [] := by
        rw [advance_rest advanced]
        exact moreTokens
      rw [course_turned unfinished read advanced, outcome_cons,
        inductionHypothesis beforeUnfinished nextRead]
      rfl

/-- Tokens are understood as what is told from their start. -/
theorem readTokens_of_tells {tokens : List Token} {told : List Statement}
    (someToken : tokens ≠ []) (tells : Tells vocabulary (ofTokens tokens) told) :
    readTokens vocabulary tokens = .ok told := by
  have begun : (part vocabulary (ofTokens tokens)).outcome = .ok (none, ofTokens tokens) := by
    rw [part_start vocabulary rfl]
    rfl
  exact outcome_of_tells tells someToken begun

/-- A reading that tells some statements, lines left out of account. -/
def Retells (vocabulary : Vocabulary) (reading : Reading) (statements : List Statement) : Prop :=
  ∃ told, Tells vocabulary reading told ∧
    told.map Statement.unlined = statements.map Statement.unlined

/-- A part that makes no statement. -/
theorem Retells.silent {reading before after : Reading} {transition : Option Transition}
    {statements : List Statement} (further : Retells vocabulary after statements)
    (unfinished : reading.rest ≠ [])
    (advanced : advance NextStates.standard reading = .ok (before, transition))
    (read : (part vocabulary before).outcome = .ok (none, after)) :
    Retells vocabulary reading statements := by
  obtain ⟨told, tells, same⟩ := further
  exact ⟨told, .part unfinished advanced read tells, same⟩

/-- A part that makes a statement. -/
theorem Retells.stating {reading before after : Reading} {transition : Option Transition}
    {action : Action} {line : Nat} {statements : List Statement}
    (further : Retells vocabulary after statements) (unfinished : reading.rest ≠ [])
    (advanced : advance NextStates.standard reading = .ok (before, transition)) (made : Action)
    (read : (part vocabulary before).outcome = .ok (some ⟨made, 0⟩, after))
    (same : made.unlined = action.unlined) :
    Retells vocabulary reading (⟨action, line⟩ :: statements) := by
  obtain ⟨told, tells, sameLater⟩ := further
  refine ⟨⟨made, 0⟩ :: told, .part unfinished advanced read tells, ?_⟩
  rw [List.map_cons, List.map_cons, sameLater, Statement.unlined, same]
  rfl

/-! ### Front matter -/

section

variable {state : State} {act scene speaker : Option String} {declared onStage : NameSet}
  {question : Option Question} {rest : List Token} {statements : List Statement}

theorem retells_title
    (further : Retells vocabulary ⟨.title, none, none, ⟨[], [], none⟩, none, rest⟩ statements) :
    Retells vocabulary
      (ofTokens (⟨.lexeme (.other "Untitled"), 0⟩ :: endMark :: rest)) statements :=
  further.silent (List.cons_ne_nil _ _) rfl rfl

theorem retells_character (isFront : state = .title ∨ state = .characterDeclaration)
    (name : String) (line : Nat)
    (further : Retells vocabulary ⟨.characterDeclaration, act, scene,
      ⟨NameSet.insert name declared, onStage, speaker⟩, question, rest⟩ statements) :
    Retells vocabulary
      ⟨state, act, scene, ⟨declared, onStage, speaker⟩, question,
        ⟨.lexeme (.character name), 0⟩ :: endMark :: rest⟩
      (⟨.declare name, line⟩ :: statements) := by
  rcases isFront with rfl | rfl
  · exact further.stating (List.cons_ne_nil _ _) rfl (.declare name) rfl rfl
  · exact further.stating (List.cons_ne_nil _ _) rfl (.declare name) rfl rfl

/-- All characters are declared, and nobody's declaration is taken back. -/
theorem retells_characters (characters : List (String × Nat))
    (further : ∀ more : NameSet, (∀ name ∈ declared, name ∈ more) →
      (∀ name ∈ characters.map Prod.fst, name ∈ more) →
      Retells vocabulary
        ⟨.characterDeclaration, act, scene, ⟨more, onStage, speaker⟩, question, rest⟩ statements) :
    Retells vocabulary
      ⟨.characterDeclaration, act, scene, ⟨declared, onStage, speaker⟩, question,
        charactersTokens characters ++ rest⟩
      ((characters.map fun character => ⟨.declare character.1, character.2⟩) ++ statements) := by
  induction characters generalizing declared with
  | nil => exact further declared (fun _ isDeclared => isDeclared) (fun _ member => nomatch member)
  | cons character others inductionHypothesis =>
      refine retells_character (Or.inr rfl) character.1 character.2 ?_
      apply inductionHypothesis
      intro more grown named
      refine further more ?_ ?_
      · intro name isDeclared
        exact grown name (NameSet.mem_insert.mpr (Or.inr isDeclared))
      · intro name member
        rcases List.mem_cons.mp member with isFirst | isLater
        · exact grown name (NameSet.mem_insert.mpr (Or.inl isFirst))
        · exact named name isLater

/-! ### Headings and stage directions -/

theorem retells_exeunt (allowed : State.stage ∈ NextStates.standard state)
    (further : Retells vocabulary
      ⟨.stage, act, scene, ⟨declared, [], none⟩, question, rest⟩ statements) :
    Retells vocabulary
      ⟨state, act, scene, ⟨declared, onStage, speaker⟩, question, ⟨.exit [], 0⟩ :: rest⟩
      statements := by
  have cleared : speaker.filter (List.contains []) = none := by cases speaker <;> rfl
  cases state <;> simp [NextStates.standard] at allowed
  all_goals
    refine further.silent (List.cons_ne_nil _ _) rfl ?_
    simp only [part, readDirection, withOnStage, cleared]
    rfl

theorem retells_enter {names : NameSet} (known : NameSet.without names declared = [])
    (further : Retells vocabulary
      ⟨.stage, act, scene, ⟨declared, NameSet.union [] names, none⟩, question, rest⟩ statements) :
    Retells vocabulary
      ⟨.stage, act, scene, ⟨declared, [], none⟩, question, ⟨.enter names, 0⟩ :: rest⟩
      statements := by
  refine further.silent (List.cons_ne_nil _ _) rfl ?_
  simp only [part, readDirection, known]
  rfl

theorem retells_speaker {name : String} (two : onStage.length = 2) (present : name ∈ onStage)
    (further : Retells vocabulary
      ⟨.characterSpeaking, act, scene, ⟨declared, onStage, some name⟩, question, rest⟩
      statements) :
    Retells vocabulary
      ⟨.stage, act, scene, ⟨declared, onStage, speaker⟩, question, ⟨.speaking name, 0⟩ :: rest⟩
      statements := by
  refine further.silent (List.cons_ne_nil _ _) rfl ?_
  simp [part, readSpeaker, two, present, Reading.silent]

theorem retells_act (allowed : State.act ∈ NextStates.standard state) (number : String)
    (further : Retells vocabulary
      ⟨.act, some number, scene, ⟨declared, onStage, speaker⟩, question, rest⟩ statements) :
    Retells vocabulary
      ⟨state, act, scene, ⟨declared, onStage, speaker⟩, question, ⟨.act number "", 0⟩ :: rest⟩
      statements := by
  cases state <;> simp [NextStates.standard] at allowed
  all_goals exact further.silent (List.cons_ne_nil _ _) rfl rfl

theorem retells_heading (allowed : State.scene ∈ NextStates.standard state)
    (current number : String) (line : Nat)
    (further : Retells vocabulary
      ⟨.scene, some current, some number, ⟨declared, onStage, speaker⟩, question, rest⟩
      statements) :
    Retells vocabulary
      ⟨state, some current, scene, ⟨declared, onStage, speaker⟩, question,
        ⟨.scene number "", 0⟩ :: rest⟩
      (⟨.scene (sceneTag current number), line⟩ :: statements) := by
  cases state <;> simp [NextStates.standard] at allowed
  all_goals
    exact further.stating (List.cons_ne_nil _ _) rfl (.scene (sceneTag current number)) rfl rfl

end

/-! ### Speeches -/

section

variable {act : String} {scene : Option String} {company : Company} {speaker listener : String}
  {rest : List Token} {statements : List Statement}

theorem addressee_of_converse (converse : company.Converse speaker listener) (line : Nat) :
    company.addressee line = .ok listener := by
  rw [Company.addressee, listener?_eq_some_iff.mpr (converse.isListener_iff.mpr rfl)]

theorem retells_address {kind : TokenKind} {action : String → Action}
    (isAddress : kind.address? = some action) (converse : company.Converse speaker listener)
    (line : Nat)
    (further : Retells vocabulary ⟨.dialogue, some act, scene, company, none, rest⟩ statements) :
    Retells vocabulary
      ⟨.characterSpeaking, some act, scene, company, none, ⟨kind, 0⟩ :: rest⟩
      (⟨action listener, line⟩ :: statements) := by
  have addressed := addressee_of_converse converse 0
  cases kind <;> cases isAddress
  all_goals
    refine further.stating (List.cons_ne_nil _ _) rfl _ ?_ rfl
    simp only [part, readDialogue, readAddress, addressed]
    rfl

theorem readExpression_tokens {value : Expr} (sayable : value.Sayable company.declared) :
    ∃ read, (readExpression Vocabulary.bundled company 0 1 value.tokens).outcome = .ok read ∧
      read.unlined = value.unlined :=
  (derives_of_wording sayable value.kind_tokens).isRead Vocabulary.hasNouns_bundled 0

theorem retells_push (converse : company.Converse speaker listener) {value : Expr}
    (sayable : value.Sayable company.declared) (line : Nat)
    (further : Retells Vocabulary.bundled ⟨.dialogue, some act, scene, company, none, rest⟩
      statements) :
    Retells Vocabulary.bundled
      ⟨.characterSpeaking, some act, scene, company, none,
        ⟨.pushStack, 0⟩ :: (value.tokens ++ endMark :: rest)⟩
      (⟨.push listener value, line⟩ :: statements) := by
  obtain ⟨read, isRead, same⟩ := readExpression_tokens sayable
  refine further.stating (List.cons_ne_nil _ _) rfl (.push listener read) ?_ ?_
  · simp only [part, readDialogue, readPush, endMark, readSentence_inner value.isInner_tokens,
      addressee_of_converse converse, Consulting.outcome_bind, Consulting.outcome_ofExcept,
      Consulting.mapError_ok, isRead]
    rfl
  · rw [Action.unlined, same]
    rfl

/-- A verb before an expression is the whole introduction. -/
theorem afterIntroduction_inner {words : List Token} (inner : ∀ token ∈ words, token.isInner)
    (rest : List Token) :
    afterIntroduction (⟨.lexeme .be, 0⟩ :: (words ++ ⟨.lexeme .punctuation, 0⟩ :: rest)) =
      .ok (words ++ ⟨.lexeme .punctuation, 0⟩ :: rest) := by
  cases words with
  | nil => rfl
  | cons token others =>
      obtain ⟨kind, line⟩ := token
      have isInner := inner _ List.mem_cons_self
      cases kind with
      | lexeme lexeme =>
          cases lexeme with
          | compare comparison => cases isInner
          | _ => rfl
      | _ => cases isInner

theorem retells_assign (converse : company.Converse speaker listener) {value : Expr}
    (sayable : value.Sayable company.declared) (line targetLine : Nat)
    (further : Retells Vocabulary.bundled ⟨.dialogue, some act, scene, company, none, rest⟩
      statements) :
    Retells Vocabulary.bundled
      ⟨.characterSpeaking, some act, scene, company, none,
        ⟨.lexeme .secondPerson, 0⟩ :: ⟨.lexeme .be, 0⟩ :: (value.tokens ++ endMark :: rest)⟩
      (⟨.assign (some listener) targetLine value, line⟩ :: statements) := by
  obtain ⟨read, isRead, same⟩ := readExpression_tokens sayable
  refine further.stating (List.cons_ne_nil _ _) rfl (.assign (some listener) 0 read) ?_ ?_
  · simp only [part, readDialogue, readAssignment, endMark,
      afterIntroduction_inner value.isInner_tokens, readSentence_inner value.isInner_tokens,
      addressee_of_converse converse, Consulting.outcome_bind, Consulting.outcome_ofExcept,
      Consulting.mapError_ok, isRead]
    rfl
  · rw [Action.unlined, same]
    rfl

theorem retells_jump (company : Company) (number : String) (line : Nat)
    (further : Retells vocabulary ⟨.dialogue, some act, scene, company, none, rest⟩ statements) :
    Retells vocabulary
      ⟨.characterSpeaking, some act, scene, company, none, ⟨.jump number, 0⟩ :: rest⟩
      (⟨.jump (sceneTag act number), line⟩ :: statements) :=
  further.stating (List.cons_ne_nil _ _) rfl (.jump (sceneTag act number)) rfl rfl

/-- A question waits for its jump. -/
theorem retells_question {lhs rhs : Expr} (lhsSayable : lhs.Sayable company.declared)
    (rhsSayable : rhs.Sayable company.declared) (comparison : Comparison)
    (further : ∀ left right : Expr, left.unlined = lhs.unlined → right.unlined = rhs.unlined →
      Retells Vocabulary.bundled
        ⟨.dialogue, some act, scene, company, some ⟨left, right, comparison.predicate, 0⟩, rest⟩
        statements) :
    Retells Vocabulary.bundled
      ⟨.characterSpeaking, some act, scene, company, none,
        ⟨.lexeme .be, 0⟩ :: (lhs.tokens ++ ⟨.lexeme (.compare comparison), 0⟩ ::
          (rhs.tokens ++ endMark :: rest))⟩
      statements := by
  obtain ⟨left, leftRead, sameLeft⟩ := readExpression_tokens lhsSayable
  obtain ⟨right, rightRead, sameRight⟩ := readExpression_tokens rhsSayable
  refine (further left right sameLeft sameRight).silent (List.cons_ne_nil _ _) rfl ?_
  have queried := readQuery_inner lhs.isInner_tokens rhs.isInner_tokens
    lhsSayable.tokens_ne_nil rhsSayable.tokens_ne_nil 0 0 0 comparison rest
  simp only [part, readDialogue, readQuestion, endMark, queried, Option.isSome_none,
    Bool.false_eq_true, if_false, Consulting.outcome_bind, Consulting.outcome_ofExcept,
    Consulting.mapError_ok, leftRead, rightRead]
  rfl

/-- Asking for a comparison and depending on the right answer tests a predicate. -/
theorem tested_asked (lhs rhs : Expr) (predicate : Predicate) (line : Nat) :
    (if predicate.asked.2 then ⟨lhs, rhs, predicate.asked.1.predicate, line⟩
      else Question.negated ⟨lhs, rhs, predicate.asked.1.predicate, line⟩) =
      (⟨lhs, rhs, predicate, line⟩ : Question) := by
  cases predicate <;> rfl

theorem retells_jumpIf {question : Question} (sayable : question.Sayable company.declared)
    (number : String) (line jumpLine : Nat)
    (further : Retells Vocabulary.bundled ⟨.dialogue, some act, scene, company, none, rest⟩
      statements) :
    Retells Vocabulary.bundled
      ⟨.characterSpeaking, some act, scene, company, none,
        question.tokens ++ ⟨.conditionalJump question.predicate.asked.2 number, 0⟩ :: rest⟩
      (⟨.jumpIf question (sceneTag act number) jumpLine, line⟩ :: statements) := by
  simp only [Question.tokens, List.cons_append, List.append_assoc, List.nil_append]
  refine retells_question sayable.1 sayable.2 _ fun left right sameLeft sameRight => ?_
  refine further.stating (List.cons_ne_nil _ _) rfl _ rfl ?_
  rw [tested_asked, Action.unlined, Question.unlined, sameLeft, sameRight]
  rfl

/-- The number of a scene can be told from its tag. -/
theorem numberIn_sceneTag (act number : String) : numberIn act (sceneTag act number) = number := by
  simp [numberIn, sceneTag]

/-- A statement is read from its sentence, said to the one at whom it is aimed. -/
theorem retells_sentence (converse : company.Converse speaker listener) {action : Action}
    (isTold : action.isTold) (sayable : action.Sayable company.declared)
    (staysIn : action.StaysIn act)
    (aimed : ∀ target, action.target? = some target → target = some listener) (line : Nat)
    (further : Retells Vocabulary.bundled ⟨.dialogue, some act, scene, company, none, rest⟩
      statements) :
    Retells Vocabulary.bundled
      ⟨.characterSpeaking, some act, scene, company, none, action.sentence act ++ rest⟩
      (⟨action, line⟩ :: statements) := by
  cases action with
  | scene tag | declare name | ask question | remark value => cases isTold
  | scanNumber name | scanCharacter name | printCharacter name | printNumber name | pop name =>
      cases aimed _ rfl
      exact retells_address rfl converse line further
  | push name value =>
      cases aimed _ rfl
      rw [Action.sentence, List.cons_append, List.append_assoc]
      exact retells_push converse sayable.2 line further
  | assign target targetLine value =>
      cases aimed _ rfl
      rw [Action.sentence, List.cons_append, List.cons_append, List.append_assoc]
      exact retells_assign converse sayable.2 line targetLine further
  | jump tag =>
      obtain ⟨number, rfl⟩ := staysIn tag rfl
      rw [Action.sentence, numberIn_sceneTag]
      exact retells_jump company number line further
  | jumpIf question tag jumpLine =>
      obtain ⟨number, rfl⟩ := staysIn tag rfl
      rw [Action.sentence, numberIn_sceneTag, List.append_assoc]
      exact retells_jumpIf sayable number line jumpLine further

end

/-! ### Scenes -/

section

variable {names : List String} {declared : NameSet} {statements : List Statement}
  {rest : List Token} {state : State} {scene speaker : Option String} {onStage : NameSet}

/-- Two declared characters enter an empty stage, and one speaks to the other. -/
theorem retells_staging {act : Option String} {listener : String}
    (declares : ∀ name ∈ names, name ∈ declared)
    (known : listener ∈ names) (hasPartner : partner names listener ∈ names)
    (differ : listener ≠ partner names listener)
    (allowed : State.stage ∈ NextStates.standard state)
    (further : ∀ company : Company, company.declared = declared →
      company.Converse (partner names listener) listener →
      Retells vocabulary ⟨.characterSpeaking, act, scene, company, none, rest⟩ statements) :
    Retells vocabulary
      ⟨state, act, scene, ⟨declared, onStage, speaker⟩, none, staging names listener ++ rest⟩
      statements := by
  have bothKnown :
      NameSet.without (NameSet.ofList [listener, partner names listener]) declared = [] := by
    simp [NameSet.without_eq_nil_iff, NameSet.ofList, declares _ known, declares _ hasPartner]
  refine retells_exeunt allowed (retells_enter bothKnown (retells_speaker ?_ ?_ (further _ rfl ?_)))
  · rcases union_pair differ with present | present <;> rw [present] <;> rfl
  · rcases union_pair differ with present | present <;> simp [present]
  · exact ⟨rfl, differ.symm, (union_pair differ).symm⟩

/-- Everybody finds a partner among some names, which are all declared. -/
structure Castable (names : List String) (declared : NameSet) : Prop where
  declares : ∀ name ∈ names, name ∈ declared
  someName : names ≠ []
  hasPartner : ∀ listener, partner names listener ∈ names ∧ listener ≠ partner names listener

/-- Statement after statement is told, each to its listener. -/
theorem retells_told (castable : Castable names declared) {act : String}
    {told : List Statement} (isTold : ∀ statement ∈ told, statement.action.isTold)
    (sayable : ∀ statement ∈ told, statement.action.Sayable names)
    (staysIn : ∀ statement ∈ told, statement.action.StaysIn act)
    (between : state = .stage ∨ state = .dialogue)
    (further : ∀ state onStage speaker, state = .stage ∨ state = .dialogue →
      Retells Vocabulary.bundled
        ⟨state, some act, scene, ⟨declared, onStage, speaker⟩, none, rest⟩ statements) :
    Retells Vocabulary.bundled
      ⟨state, some act, scene, ⟨declared, onStage, speaker⟩, none,
        (told.flatMap fun statement => statement.action.speech names act) ++ rest⟩
      (told ++ statements) := by
  induction told generalizing state onStage speaker with
  | nil => exact further state onStage speaker between
  | cons statement others inductionHypothesis =>
      obtain ⟨action, line⟩ := statement
      obtain ⟨firstTold, othersTold⟩ := List.forall_mem_cons.mp isTold
      obtain ⟨firstSayable, othersSayable⟩ := List.forall_mem_cons.mp sayable
      obtain ⟨firstStays, othersStay⟩ := List.forall_mem_cons.mp staysIn
      obtain ⟨known, aimed⟩ := Action.listener_spec firstSayable castable.someName
      obtain ⟨hasPartner, differ⟩ := castable.hasPartner (action.listener names)
      have allowed : State.stage ∈ NextStates.standard state := by
        rcases between with rfl | rfl <;> decide
      rw [List.flatMap_cons, List.append_assoc, Action.speech, List.append_assoc]
      refine retells_staging castable.declares known hasPartner differ allowed ?_
      rintro company rfl converse
      refine retells_sentence converse firstTold (firstSayable.mono castable.declares) firstStays
        aimed line ?_
      exact inductionHypothesis othersTold othersSayable othersStay (Or.inr rfl)

/-- A scene is told from its heading to its last statement. -/
theorem retells_scene (castable : Castable names declared) {current : Scene}
    (wellFormed : current.WellFormed names) (allowed : State.scene ∈ NextStates.standard state)
    (further : ∀ state scene onStage speaker, state = .stage ∨ state = .dialogue →
      Retells Vocabulary.bundled
        ⟨state, some current.act, scene, ⟨declared, onStage, speaker⟩, none, rest⟩ statements) :
    Retells Vocabulary.bundled
      ⟨state, some current.act, scene, ⟨declared, onStage, speaker⟩, none,
        current.tokens names ++ rest⟩
      (current.statements ++ statements) := by
  refine retells_heading allowed current.act current.number current.line ?_
  refine retells_exeunt (by decide) ?_
  exact retells_told castable wellFormed.told wellFormed.sayable wellFormed.staysIn (Or.inl rfl)
    fun state onStage speaker => further state (some current.number) onStage speaker

/-- Scene after scene is told.  The heading of an act stands where the act changes,
and there it is allowed. -/
theorem retells_scenes (castable : Castable names declared) {scenes : List Scene}
    (wellFormed : ∀ scene ∈ scenes, scene.WellFormed names) {act : Option String}
    (allowsAct : State.act ∈ NextStates.standard state)
    (allowsScene : act ≠ none → State.scene ∈ NextStates.standard state) :
    Retells Vocabulary.bundled
      ⟨state, act, scene, ⟨declared, onStage, speaker⟩, none, scenesTokens names act scenes⟩
      (scenes.flatMap Scene.statements) := by
  induction scenes generalizing state act scene onStage speaker with
  | nil => exact ⟨[], .finished rfl, rfl⟩
  | cons first others inductionHypothesis =>
      obtain ⟨firstWellFormed, othersWellFormed⟩ := List.forall_mem_cons.mp wellFormed
      have later {state : State} (scene : Option String) (onStage : NameSet)
          (speaker : Option String) (between : state = .stage ∨ state = .dialogue) :
          Retells Vocabulary.bundled
            ⟨state, some first.act, scene, ⟨declared, onStage, speaker⟩, none,
              scenesTokens names (some first.act) others⟩
            (others.flatMap Scene.statements) := by
        apply inductionHypothesis othersWellFormed
        · rcases between with rfl | rfl <;> decide
        · intro _
          rcases between with rfl | rfl <;> decide
      rw [scenesTokens, List.flatMap_cons]
      by_cases sameAct : act = some first.act
      · subst sameAct
        rw [if_pos rfl, List.nil_append]
        exact retells_scene castable firstWellFormed (allowsScene (by simp))
          fun state scene onStage speaker => later scene onStage speaker
      · rw [if_neg sameAct]
        refine retells_act allowsAct first.act ?_
        exact retells_scene castable firstWellFormed (by decide)
          fun state scene onStage speaker => later scene onStage speaker

end

end Reading

/-! ### Every play can be told -/

/-- Every well-formed play with two different characters can be told: its tokens are
understood, and they say what the play says, lines left out of account. -/
theorem readTokens_tokens {outline : Outline} (wellFormed : outline.WellFormed)
    {first second : String} (hasFirst : first ∈ outline.names) (hasSecond : second ∈ outline.names)
    (differ : first ≠ second) :
    ∃ statements, readTokens Vocabulary.bundled outline.tokens = .ok statements ∧
      statements.map Statement.unlined = outline.statements.map Statement.unlined := by
  obtain ⟨characters, scenes⟩ := outline
  cases characters with
  | nil => cases hasFirst
  | cons character others =>
      have retells : Reading.Retells Vocabulary.bundled
          (.ofTokens (Outline.tokens ⟨character :: others, scenes⟩))
          (Outline.statements ⟨character :: others, scenes⟩) := by
        refine Reading.retells_title (Reading.retells_character (Or.inl rfl) character.1
          character.2 ?_)
        refine Reading.retells_characters others ?_
        intro declared grown named
        have castable :
            Reading.Castable (Outline.names ⟨character :: others, scenes⟩) declared := by
          refine ⟨?_, List.cons_ne_nil _ _, partner_spec hasFirst hasSecond differ⟩
          intro name member
          rcases List.mem_cons.mp member with isFirst | isLater
          · exact grown name (NameSet.mem_insert.mpr (Or.inl isFirst))
          · exact named name isLater
        exact Reading.retells_scenes castable wellFormed (by decide) (fun some => absurd rfl some)
      obtain ⟨told, tells, same⟩ := retells
      exact ⟨told, Reading.readTokens_of_tells (List.cons_ne_nil _ _) tells, same⟩

/-- A play whose first scene is empty.  The question of its second act asks for the
denial of a comparison. -/
def emptyScene : Outline :=
  ⟨[("Ajax", 1), ("Puck", 2)],
    [⟨"I", "I", 3, []⟩,
      ⟨"II", "I", 4,
        [⟨.jumpIf ⟨.character (some "Ajax") 5, .number (-4) 5, .lessEqual, 5⟩ "II.I" 5, 5⟩]⟩]⟩

theorem readTokens_tokens_emptyScene :
    ∃ statements, readTokens Vocabulary.bundled emptyScene.tokens = .ok statements ∧
      statements.map Statement.unlined =
        [⟨.declare "Ajax", 0⟩, ⟨.declare "Puck", 0⟩, ⟨.scene "I.I", 0⟩, ⟨.scene "II.I", 0⟩,
          ⟨.jumpIf ⟨.character (some "Ajax") 0, .number (-4) 0, .lessEqual, 0⟩ "II.I" 0, 0⟩] := by
  have isNumeral : IsNumeral (-4) := ⟨2, -1, Or.inr (Or.inr rfl), by decide⟩
  have wellFormed : emptyScene.WellFormed := by
    refine List.forall_mem_cons.mpr ⟨?_, List.forall_mem_singleton.mpr ?_⟩
    · exact ⟨by simp, by simp, by simp⟩
    · refine ⟨?_, ?_, ?_⟩ <;> rw [List.forall_mem_singleton]
      · rfl
      · exact ⟨⟨"Ajax", List.mem_cons_self, rfl⟩, isNumeral⟩
      · intro tag leads
        cases leads
        exact ⟨"I", rfl⟩
  have hasAjax : "Ajax" ∈ emptyScene.names := by decide
  have hasPuck : "Puck" ∈ emptyScene.names := by decide
  exact readTokens_tokens wellFormed hasAjax hasPuck (by decide)

end Playhouse
