/-
Module: Playhouse.Proofs.Stage
Purpose: The stage stays in order throughout a reading, and every speech has one
  speaker and one listener.
Main exports: Action.target?, Reading.InOrder, Reading.InOrder.turn, Reading.inOrder_of_passage,
  readings_inOrder
-/
import Playhouse.Proofs.Faults
import Playhouse.Proofs.Passage

namespace Playhouse

/-- The character at whom a statement of a speech is aimed. -/
def Action.target? : Action → Option (Option String)
  | printNumber name | printCharacter name | scanNumber name | scanCharacter name
  | push name _ | pop name => some (some name)
  | assign target _ _ => some target
  | _ => none

/-! ### The stage after one part -/

namespace Company

variable {company : Company}

/-- Declaring a character leaves the stage in order. -/
theorem Staged.declare (staged : company.Staged) (name : String) :
    Staged { company with declared := NameSet.insert name company.declared } where
  ordered := staged.ordered
  declared other present := NameSet.mem_insert.mpr (Or.inr (staged.declared other present))
  speaker := staged.speaker

/-- Letting one of those on stage speak leaves the stage in order. -/
theorem Staged.speak (staged : company.Staged) {name : String} (present : name ∈ company.onStage) :
    Staged { company with speaker := some name } where
  ordered := staged.ordered
  declared := staged.declared
  speaker other speaks := by
    cases speaks
    exact present

end Company

namespace Reading

variable {vocabulary : Vocabulary} {reading after : Reading} {statement : Option Statement}

/-- A change on stage leaves it in order if everybody there is declared. -/
theorem staged_withOnStage {onStage : NameSet} (ordered : NameSet.Ordered onStage)
    (declared : ∀ name ∈ onStage, name ∈ reading.company.declared) (rest : List Token) :
    (reading.withOnStage onStage rest).company.Staged where
  ordered := ordered
  declared := declared
  speaker name speaks := by
    obtain ⟨_, contained⟩ := Option.filter_eq_some_iff.mp speaks
    exact List.contains_iff_mem.mp contained

/-- A part does not end before its successor is decided on. -/
theorem Reads.state (read : Reads vocabulary reading statement after) :
    after.state = reading.state := by
  cases read <;> rfl

/-- Nobody's declaration is taken back. -/
theorem Reads.declared_mono (read : Reads vocabulary reading statement after) :
    ∀ name ∈ reading.company.declared, name ∈ after.company.declared := by
  intro name isDeclared
  cases read with
  | declaration state here found => exact NameSet.mem_insert.mpr (Or.inr isDeclared)
  | _ => exact isDeclared

theorem Reads.staged (read : Reads vocabulary reading statement after)
    (staged : reading.company.Staged) : after.company.Staged := by
  cases read with
  | @declaration name line tokens rest state here found => exact staged.declare name
  | @enter names line rest state here known =>
      apply staged_withOnStage (NameSet.ordered_union staged.ordered names)
      intro name present
      rcases NameSet.mem_union.mp present with wasThere | enters
      · exact staged.declared name wasThere
      · exact NameSet.without_eq_nil_iff.mp known name enters
  | exeunt state here =>
      exact staged_withOnStage List.Pairwise.nil (fun _ present => nomatch present) _
  | @exit names line rest state here present =>
      apply staged_withOnStage (NameSet.ordered_without staged.ordered names)
      intro name remains
      exact staged.declared name (NameSet.mem_without.mp remains).1
  | speaker state here two present => exact staged.speak present
  | _ => exact staged

/-- A speech begins with two characters on stage, one of whom speaks, and goes on
with the same two. -/
theorem Reads.converse (read : Reads vocabulary reading statement after)
    (staged : reading.company.Staged)
    (conversing : reading.state = .dialogue → ∃ speaker listener,
      reading.company.Converse speaker listener)
    (speech : reading.state = .characterSpeaking ∨ reading.state = .dialogue) :
    ∃ speaker listener, after.company.Converse speaker listener := by
  cases read with
  | @speaker name line rest state here two present =>
      exact ⟨name, (staged.speak present).converse two rfl⟩
  | address state | push state | jump state | conditionalJump state | assignment state
  | question state => exact conversing state
  | start state | title state | declaration state | act state | scene state | enter state
  | exeunt state | exit state => simp [state] at speech

/-! ### Order throughout a reading -/

/-- A reading in order, with the statements told so far: the stage is in order,
every speech is a conversation, and all that was said can be said. -/
structure InOrder (told : List Statement) (reading : Reading) : Prop where
  staged : reading.company.Staged
  conversing : reading.state = .dialogue → ∃ speaker listener,
    reading.company.Converse speaker listener
  question : ∀ question, reading.question = some question →
    question.Sayable reading.company.declared
  told : ∀ statement ∈ told, statement.action.Sayable reading.company.declared

variable {told : List Statement}

theorem inOrder_ofTokens (tokens : List Token) : InOrder [] (ofTokens tokens) where
  staged := ⟨List.Pairwise.nil, fun _ present => (nomatch present), fun _ speaks => nomatch speaks⟩
  conversing state := nomatch state
  question _ asked := nomatch asked
  told _ member := nomatch member

/-- A question that waits after a part can be asked. -/
theorem InOrder.question_of_reads (inOrder : InOrder told reading)
    (read : Reads vocabulary reading statement after) {question : Question}
    (asked : after.question = some question) : question.Sayable after.company.declared := by
  cases read with
  | declaration state here found =>
      exact (inOrder.question question asked).mono fun name isDeclared =>
        NameSet.mem_insert.mpr (Or.inr isDeclared)
  | conditionalJump state here wasAsked => cases asked
  | question state here unasked queried lhsValued rhsValued =>
      cases asked
      obtain ⟨speaker, listener, converse⟩ := inOrder.conversing state
      exact ⟨sayable_of_readExpression inOrder.staged converse lhsValued,
        sayable_of_readExpression inOrder.staged converse rhsValued⟩
  | _ => exact inOrder.question question asked

theorem sayable_of_address {kind : TokenKind} {action : String → Action}
    (isAddress : kind.address? = some action) {declared : NameSet} {name : String}
    (isDeclared : name ∈ declared) : (action name).Sayable declared := by
  cases kind <;> cases isAddress <;> exact isDeclared

/-- A statement that a part makes can be said. -/
theorem InOrder.sayable_of_reads (inOrder : InOrder told reading)
    (read : Reads vocabulary reading statement after) :
    ∀ made ∈ statement, made.action.Sayable after.company.declared := by
  -- Only the listener is addressed, and the listener is declared.
  have heard (state : reading.state = .dialogue) {name : String}
      (listens : reading.company.IsListener name) : name ∈ reading.company.declared := by
    obtain ⟨speaker, listener, converse⟩ := inOrder.conversing state
    rw [converse.isListener_iff.mp listens]
    exact inOrder.staged.declared listener converse.listener_mem
  intro made isMade
  cases read with
  | declaration state here found =>
      cases isMade
      exact NameSet.mem_insert.mpr (Or.inl rfl)
  | scene state here =>
      cases isMade
      trivial
  | jump state here =>
      cases isMade
      trivial
  | address state here isAddress listens =>
      cases isMade
      exact sayable_of_address isAddress (heard state listens)
  | push state here said valued listens =>
      cases isMade
      obtain ⟨speaker, listener, converse⟩ := inOrder.conversing state
      exact ⟨heard state listens, sayable_of_readExpression inOrder.staged converse valued⟩
  | assignment state here introduction said valued listens =>
      cases isMade
      obtain ⟨speaker, listener, converse⟩ := inOrder.conversing state
      exact ⟨⟨_, heard state listens, rfl⟩,
        sayable_of_readExpression inOrder.staged converse valued⟩
  | @conditionalJump affirmed target line rest question state here asked =>
      cases isMade
      have sayable := inOrder.question question asked
      cases affirmed <;> exact sayable
  | _ => cases isMade

/-- With the standard table a speech follows a speaker or goes on. -/
theorem speech_of_follows_dialogue {state : State}
    (follows : Follows NextStates.standard state .dialogue) :
    state = .characterSpeaking ∨ state = .dialogue := by
  rcases follows.standard with same | listed
  · exact Or.inr same.symm
  · revert listed
    cases state <;> decide

/-- A turn keeps a reading in order. -/
theorem InOrder.turn (inOrder : InOrder told reading)
    (turn : Turn NextStates.standard vocabulary reading statement after) :
    InOrder (told ++ statement.toList) after := by
  obtain ⟨middle, target, read, follows, rfl⟩ := turn.reads
  constructor
  · exact read.staged inOrder.staged
  · intro isDialogue
    cases isDialogue
    rw [read.state] at follows
    exact read.converse inOrder.staged inOrder.conversing (speech_of_follows_dialogue follows)
  · intro question asked
    exact inOrder.question_of_reads read asked
  · intro made member
    rcases List.mem_append.mp member with before | now
    · exact (inOrder.told made before).mono read.declared_mono
    · exact inOrder.sayable_of_reads read made (Option.mem_toList.mp now)

/-- Every reading passed through from the start of a play is in order. -/
theorem inOrder_of_passage {tokens : List Token}
    (passed : Passage NextStates.standard vocabulary (ofTokens tokens) told reading) :
    InOrder told reading := by
  induction passed with
  | here => exact inOrder_ofTokens tokens
  | turn passed turned inductionHypothesis => exact inductionHypothesis.turn turned

/-! ### Consequences for a play -/

theorem target?_of_address {kind : TokenKind} {action : String → Action}
    (isAddress : kind.address? = some action) (name : String) :
    (action name).target? = some (some name) := by
  cases kind <;> cases isAddress <;> rfl

/-- Whatever a speech aims at somebody is aimed at the listener. -/
theorem Reads.target_listens {made : Statement}
    (read : Reads vocabulary reading (some made) after) {target : Option String}
    (aimed : made.action.target? = some target) :
    ∃ name, target = some name ∧ reading.company.IsListener name := by
  cases read with
  | @address kind action line rest name state here isAddress listens =>
      rw [target?_of_address isAddress name] at aimed
      cases aimed
      exact ⟨name, rfl, listens⟩
  | @push line tokens sentence value name state here said valued listens =>
      cases aimed
      exact ⟨name, rfl, listens⟩
  | @assignment line introduced tokens sentence value name state here introduction said valued
      listens =>
      cases aimed
      exact ⟨name, rfl, listens⟩
  | _ => cases aimed

theorem nextState_ne_listenerMissing {next : NextStates} {state : State} {token : Token}
    {fault : ParseFault} (failed : nextState next state token = .error fault) :
    fault.cause ≠ .listenerMissing := by
  unfold nextState at failed
  split at failed <;> cases failed <;> simp

/-- A reading in order never stops for want of a listener. -/
theorem InOrder.heard_of_stopsAt (inOrder : InOrder told reading) {fault : ParseFault}
    (stopped : StopsAt NextStates.standard vocabulary reading (.parse fault)) :
    fault.cause ≠ .listenerMissing := by
  intro unheard
  cases stopped with
  | part unfinished failed =>
      rcases (part_ensures vocabulary reading).error failed with ordinary | ⟨_, state, nobody⟩
      · rw [unheard] at ordinary
        cases ordinary
      · obtain ⟨speaker, listener, converse⟩ := inOrder.conversing state
        exact nobody listener (converse.isListener_iff.mpr rfl)
  | advance unfinished read failed =>
      obtain ⟨token, rest, _, notFollowed⟩ := nextState_of_advance_error failed
      exact nextState_ne_listenerMissing notFollowed unheard

end Reading

/-- Throughout the reading of a play those on stage are declared and the speaker is
one of them.  Every speech has two characters on stage, whatever it aims at somebody
is aimed at the one who does not speak, and every phrase in it names somebody.  The
want of a listener and a name for nobody therefore never occur. -/
theorem readings_inOrder (vocabulary : Vocabulary) (tokens : List Token) :
    let start := Reading.ofTokens tokens
    let course := start.course NextStates.standard vocabulary
    (∀ reading ∈ course.readings start,
      (∀ name ∈ reading.company.onStage, name ∈ reading.company.declared) ∧
      (∀ speaker, reading.company.speaker = some speaker → speaker ∈ reading.company.onStage) ∧
      (reading.state = .dialogue → ∃ speaker listener,
        reading.company.Converse speaker listener ∧
        (∀ statement after target,
          (Reading.part vocabulary reading).outcome = .ok (some statement, after) →
          statement.action.target? = some target → target = some listener) ∧
        (∀ endLine words expression,
          (readExpression vocabulary reading.company endLine 1 words).outcome = .ok expression →
          none ∉ expression.names))) ∧
    (∀ statement ∈ course.statements, none ∉ statement.action.names) ∧
    (∀ fault consulted, course.failure = some (.parse fault, consulted) →
      fault.cause ≠ .listenerMissing) := by
  intro start course
  have begun : Reading.Passage NextStates.standard vocabulary start [] start := .here
  obtain ⟨final, passed, ended⟩ := Reading.course_passage begun
  have finalInOrder := Reading.inOrder_of_passage passed
  refine ⟨?_, ?_, ?_⟩
  · intro reading member
    obtain ⟨told, passedHere⟩ := passage_of_mem_readings member
    have inOrder := Reading.inOrder_of_passage passedHere
    refine ⟨inOrder.staged.declared, inOrder.staged.speaker, ?_⟩
    intro state
    obtain ⟨speaker, listener, converse⟩ := inOrder.conversing state
    refine ⟨speaker, listener, converse, ?_, ?_⟩
    · intro statement after target read aimed
      have unfinished : reading.rest ≠ [] := by
        intro finished
        simp [Reading.part, finished, Reading.silent] at read
      obtain ⟨name, rfl, listens⟩ := (Reading.reads_of_part unfinished read).target_listens aimed
      rw [converse.isListener_iff.mp listens]
    · intro endLine words expression read named
      obtain ⟨known, _, isSome⟩ :=
        (sayable_of_readExpression inOrder.staged converse read).names named
      cases isSome
  · intro statement member named
    obtain ⟨known, _, isSome⟩ :=
      (finalInOrder.told statement (List.mem_append_right [] member)).names named
    cases isSome
  · intro fault consulted failed
    rw [failed] at ended
    exact finalInOrder.heard_of_stopsAt ended

/-- The tokens of a play in which Puck makes Ajax say his number. -/
def firstWords : List Token :=
  [⟨.lexeme .punctuation, 1⟩, ⟨.lexeme (.character "Ajax"), 2⟩, ⟨.lexeme .punctuation, 2⟩,
    ⟨.lexeme (.character "Puck"), 3⟩, ⟨.lexeme .punctuation, 3⟩, ⟨.act "I" "a", 4⟩,
    ⟨.scene "I" "a", 5⟩, ⟨.enter ["Ajax", "Puck"], 6⟩, ⟨.speaking "Puck", 7⟩, ⟨.printNumber, 7⟩]

/-- Their reading comes to a speech, in which it is Ajax who listens. -/
theorem readings_inOrder_firstWords :
    ∃ reading ∈ ((Reading.ofTokens firstWords).course NextStates.standard ⟨[]⟩).readings
        (Reading.ofTokens firstWords),
      reading.state = .dialogue ∧ reading.rest = [⟨.printNumber, 7⟩] ∧
      ∃ speaker listener, reading.company.Converse speaker listener ∧ listener = "Ajax" := by
  have member : (⟨.dialogue, some "I", some "I", ⟨["Ajax", "Puck"], ["Ajax", "Puck"],
      some "Puck"⟩, none, [⟨.printNumber, 7⟩]⟩ : Reading) ∈
      ((Reading.ofTokens firstWords).course NextStates.standard ⟨[]⟩).readings
        (Reading.ofTokens firstWords) := by decide +kernel
  refine ⟨_, member, rfl, rfl, ?_⟩
  obtain ⟨_, _, conversing⟩ := (readings_inOrder ⟨[]⟩ firstWords).1 _ member
  obtain ⟨speaker, listener, converse, aimed, _⟩ := conversing rfl
  have isListener := aimed ⟨.printNumber "Ajax", 7⟩ _ (some "Ajax") rfl rfl
  exact ⟨speaker, listener, converse, (Option.some.inj isListener).symm⟩

end Playhouse
