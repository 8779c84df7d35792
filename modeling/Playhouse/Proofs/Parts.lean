/-
Module: Playhouse.Proofs.Parts
Purpose: All that one part of a reading can do, as a relation with one rule for
  each kind of part.
Main exports: TokenKind.address?, Reading.Reads, Reading.reads_of_part,
  Reading.Follows, Reading.advance_follows, Reading.nextState_of_advance_error
-/
import Playhouse.Proofs.Phrase
import Playhouse.Script.Progress

namespace Playhouse

/-- The statement about the listener that a token makes by itself. -/
def TokenKind.address? : TokenKind → Option (String → Action)
  | printNumber => some .printNumber
  | printCharacter => some .printCharacter
  | scanNumber => some .scanNumber
  | scanCharacter => some .scanCharacter
  | popStack => some .pop
  | _ => none

namespace Reading

/-! ### One part -/

/-- What a part that succeeds yields, and how the reading goes on.  Statements
about a part are proved from these rules, never from the readers themselves. -/
inductive Reads (vocabulary : Vocabulary) (reading : Reading) :
    Option Statement → Reading → Prop where
  | start (state : reading.state = .start) : Reads vocabulary reading none reading
  | title {rest : List Token} (state : reading.state = .title)
      (found : afterPunctuation? reading.rest = some rest) :
      Reads vocabulary reading none { reading with rest := rest }
  | declaration {name : String} {line : Nat} {tokens rest : List Token}
      (state : reading.state = .characterDeclaration)
      (here : reading.rest = ⟨.lexeme (.character name), line⟩ :: tokens)
      (found : afterPunctuation? tokens = some rest) :
      Reads vocabulary reading (some ⟨.declare name, line⟩)
        { reading with
          rest := rest
          company :=
            { reading.company with declared := NameSet.insert name reading.company.declared } }
  | act {number description : String} {line : Nat} {rest : List Token}
      (state : reading.state = .act)
      (here : reading.rest = ⟨.act number description, line⟩ :: rest) :
      Reads vocabulary reading none { reading with rest := rest, act := some number }
  | scene {number description : String} {line : Nat} {rest : List Token}
      (state : reading.state = .scene)
      (here : reading.rest = ⟨.scene number description, line⟩ :: rest) :
      Reads vocabulary reading (some ⟨.scene (reading.tag number), line⟩)
        { reading with rest := rest, scene := some number }
  | enter {names : NameSet} {line : Nat} {rest : List Token}
      (state : reading.state = .stage)
      (here : reading.rest = ⟨.enter names, line⟩ :: rest)
      (known : NameSet.without names reading.company.declared = []) :
      Reads vocabulary reading none
        (reading.withOnStage (NameSet.union reading.company.onStage names) rest)
  | exeunt {line : Nat} {rest : List Token} (state : reading.state = .stage)
      (here : reading.rest = ⟨.exit [], line⟩ :: rest) :
      Reads vocabulary reading none (reading.withOnStage [] rest)
  | exit {names : NameSet} {line : Nat} {rest : List Token}
      (state : reading.state = .stage)
      (here : reading.rest = ⟨.exit names, line⟩ :: rest)
      (present : NameSet.without names reading.company.onStage = []) :
      Reads vocabulary reading none
        (reading.withOnStage (NameSet.without reading.company.onStage names) rest)
  | speaker {name : String} {line : Nat} {rest : List Token}
      (state : reading.state = .characterSpeaking)
      (here : reading.rest = ⟨.speaking name, line⟩ :: rest)
      (two : reading.company.onStage.length = 2)
      (present : name ∈ reading.company.onStage) :
      Reads vocabulary reading none
        { reading with
          rest := rest
          company := { reading.company with speaker := some name } }
  | address {kind : TokenKind} {action : String → Action} {line : Nat} {rest : List Token}
      {name : String} (state : reading.state = .dialogue)
      (here : reading.rest = ⟨kind, line⟩ :: rest) (isAddress : kind.address? = some action)
      (listens : reading.company.IsListener name) :
      Reads vocabulary reading (some ⟨action name, line⟩) { reading with rest := rest }
  | push {line : Nat} {tokens : List Token} {sentence : Sentence} {value : Expr}
      {name : String} (state : reading.state = .dialogue)
      (here : reading.rest = ⟨.pushStack, line⟩ :: tokens)
      (said : readSentence line tokens = .ok sentence)
      (valued : (readExpression vocabulary reading.company sentence.endLine 1
        sentence.words).outcome = .ok value)
      (listens : reading.company.IsListener name) :
      Reads vocabulary reading (some ⟨.push name value, line⟩)
        { reading with rest := sentence.rest }
  | jump {target : String} {line : Nat} {rest : List Token}
      (state : reading.state = .dialogue)
      (here : reading.rest = ⟨.jump target, line⟩ :: rest) :
      Reads vocabulary reading (some ⟨.jump (reading.tag target), line⟩)
        { reading with rest := rest }
  | conditionalJump {affirmed : Bool} {target : String} {line : Nat} {rest : List Token}
      {question : Question} (state : reading.state = .dialogue)
      (here : reading.rest = ⟨.conditionalJump affirmed target, line⟩ :: rest)
      (asked : reading.question = some question) :
      Reads vocabulary reading
        (some ⟨.jumpIf (if affirmed then question else question.negated)
          (reading.tag target) line, line⟩)
        { reading with rest := rest, question := none }
  | assignment {line : Nat} {introduced tokens : List Token} {sentence : Sentence}
      {value : Expr} {name : String} (state : reading.state = .dialogue)
      (here : reading.rest = ⟨.lexeme .secondPerson, line⟩ :: introduced)
      (introduction : afterIntroduction introduced = .ok tokens)
      (said : readSentence line tokens = .ok sentence)
      (valued : (readExpression vocabulary reading.company sentence.endLine 1
        sentence.words).outcome = .ok value)
      (listens : reading.company.IsListener name) :
      Reads vocabulary reading (some ⟨.assign (some name) line value, line⟩)
        { reading with rest := sentence.rest }
  | question {line : Nat} {tokens : List Token} {query : Query} {lhs rhs : Expr}
      (state : reading.state = .dialogue)
      (here : reading.rest = ⟨.lexeme .be, line⟩ :: tokens)
      (unasked : reading.question = none)
      (queried : readQuery line tokens = .ok query)
      (lhsValued : (readExpression vocabulary reading.company query.endLine 1
        query.lhs).outcome = .ok lhs)
      (rhsValued : (readExpression vocabulary reading.company query.endLine 1
        query.rhs).outcome = .ok rhs) :
      Reads vocabulary reading none
        { reading with
          rest := query.rest
          question := some ⟨lhs, rhs, query.comparison.predicate, line⟩ }

/-! ### The parts follow the rules -/

section

variable {vocabulary : Vocabulary} {reading after : Reading} {statement : Option Statement}
  {token : Token} {rest : List Token}

theorem silent_eq_ok {next : Reading}
    (succeeded : (silent next).outcome = .ok (statement, after)) :
    statement = none ∧ after = next := by
  cases succeeded
  exact ⟨rfl, rfl⟩

theorem stating_eq_ok {action : Action} {line : Nat} {next : Reading}
    (succeeded : (stating action line next).outcome = .ok (statement, after)) :
    statement = some ⟨action, line⟩ ∧ after = next := by
  cases succeeded
  exact ⟨rfl, rfl⟩

/-- Whoever is addressed listens. -/
theorem listens_of_addressee {company : Company} {line : Nat} {name : String}
    (addressed : (Consulting.ofExcept (company.addressee line)).outcome = .ok name) :
    company.IsListener name := by
  have spoken := outcome_ofExcept_eq_ok addressed
  unfold Company.addressee at spoken
  split at spoken
  · rename_i heard
    cases spoken
    exact listener?_eq_some_iff.mp heard
  · cases spoken

theorem reads_of_readTitle (state : reading.state = .title)
    (read : (reading.readTitle reading.rest).outcome = .ok (statement, after)) :
    Reads vocabulary reading statement after := by
  unfold readTitle at read
  split at read
  · obtain ⟨rfl, rfl⟩ := silent_eq_ok read
    exact .title state (by assumption)
  · cases read

theorem reads_of_readDeclaration (state : reading.state = .characterDeclaration)
    (here : reading.rest = token :: rest)
    (read : (reading.readDeclaration token rest).outcome = .ok (statement, after)) :
    Reads vocabulary reading statement after := by
  obtain ⟨kind, line⟩ := token
  unfold readDeclaration at read
  split at read
  · rename_i name isName
    cases isName
    split at read
    · obtain ⟨rfl, rfl⟩ := stating_eq_ok read
      exact .declaration state here (by assumption)
    · cases read
  · cases read

theorem reads_of_readAct (state : reading.state = .act) (here : reading.rest = token :: rest)
    (read : (reading.readAct token rest).outcome = .ok (statement, after)) :
    Reads vocabulary reading statement after := by
  obtain ⟨kind, line⟩ := token
  unfold readAct at read
  split at read
  · rename_i isAct
    cases isAct
    obtain ⟨rfl, rfl⟩ := silent_eq_ok read
    exact .act state here
  · cases read

theorem reads_of_readScene (state : reading.state = .scene)
    (here : reading.rest = token :: rest)
    (read : (reading.readScene token rest).outcome = .ok (statement, after)) :
    Reads vocabulary reading statement after := by
  obtain ⟨kind, line⟩ := token
  unfold readScene at read
  split at read
  · rename_i isScene
    cases isScene
    obtain ⟨rfl, rfl⟩ := stating_eq_ok read
    exact .scene state here
  · cases read

theorem reads_of_readDirection (state : reading.state = .stage)
    (here : reading.rest = token :: rest)
    (read : (reading.readDirection token rest).outcome = .ok (statement, after)) :
    Reads vocabulary reading statement after := by
  obtain ⟨kind, line⟩ := token
  unfold readDirection at read
  split at read
  · rename_i isEnter
    cases isEnter
    split at read
    · obtain ⟨rfl, rfl⟩ := silent_eq_ok read
      exact .enter state here (by assumption)
    · cases read
  · rename_i isExeunt
    cases isExeunt
    obtain ⟨rfl, rfl⟩ := silent_eq_ok read
    exact .exeunt state here
  · rename_i isExit
    cases isExit
    split at read
    · obtain ⟨rfl, rfl⟩ := silent_eq_ok read
      exact .exit state here (by assumption)
    · cases read
  · cases read

theorem reads_of_readSpeaker (state : reading.state = .characterSpeaking)
    (here : reading.rest = token :: rest)
    (read : (reading.readSpeaker token rest).outcome = .ok (statement, after)) :
    Reads vocabulary reading statement after := by
  obtain ⟨kind, line⟩ := token
  unfold readSpeaker at read
  split at read
  · cases read
  · rename_i two
    split at read
    · rename_i isSpeaking
      cases isSpeaking
      split at read
      · rename_i present
        obtain ⟨rfl, rfl⟩ := silent_eq_ok read
        exact .speaker state here (Decidable.not_not.mp two) (List.contains_iff_mem.mp present)
      · cases read
    · cases read

theorem reads_of_readAddress {kind : TokenKind} {action : String → Action} {line : Nat}
    (state : reading.state = .dialogue) (here : reading.rest = ⟨kind, line⟩ :: rest)
    (isAddress : kind.address? = some action)
    (read : (reading.readAddress line rest action).outcome = .ok (statement, after)) :
    Reads vocabulary reading statement after := by
  obtain ⟨name, addressed, stated⟩ := (Consulting.outcome_bind_eq_ok _ _ _).mp read
  obtain ⟨rfl, rfl⟩ := stating_eq_ok stated
  exact .address state here isAddress (listens_of_addressee addressed)

theorem reads_of_readPush {line : Nat} (state : reading.state = .dialogue)
    (here : reading.rest = ⟨.pushStack, line⟩ :: rest)
    (read : (readPush vocabulary reading line rest).outcome = .ok (statement, after)) :
    Reads vocabulary reading statement after := by
  obtain ⟨sentence, said, read⟩ := (Consulting.outcome_bind_eq_ok _ _ _).mp read
  obtain ⟨value, valued, read⟩ := (Consulting.outcome_bind_eq_ok _ _ _).mp read
  obtain ⟨name, addressed, stated⟩ := (Consulting.outcome_bind_eq_ok _ _ _).mp read
  obtain ⟨rfl, rfl⟩ := stating_eq_ok stated
  exact .push state here (outcome_ofExcept_eq_ok said) valued (listens_of_addressee addressed)

theorem reads_of_readConditionalJump {affirmed : Bool} {target : String} {line : Nat}
    (state : reading.state = .dialogue)
    (here : reading.rest = ⟨.conditionalJump affirmed target, line⟩ :: rest)
    (read : (reading.readConditionalJump affirmed target line rest).outcome =
      .ok (statement, after)) :
    Reads vocabulary reading statement after := by
  unfold readConditionalJump at read
  split at read
  · cases read
  · obtain ⟨rfl, rfl⟩ := stating_eq_ok read
    exact .conditionalJump state here (by assumption)

theorem reads_of_readAssignment {line : Nat} (state : reading.state = .dialogue)
    (here : reading.rest = ⟨.lexeme .secondPerson, line⟩ :: rest)
    (read : (readAssignment vocabulary reading line rest).outcome = .ok (statement, after)) :
    Reads vocabulary reading statement after := by
  obtain ⟨name, addressed, read⟩ := (Consulting.outcome_bind_eq_ok _ _ _).mp read
  obtain ⟨tokens, introduction, read⟩ := (Consulting.outcome_bind_eq_ok _ _ _).mp read
  obtain ⟨sentence, said, read⟩ := (Consulting.outcome_bind_eq_ok _ _ _).mp read
  obtain ⟨value, valued, stated⟩ := (Consulting.outcome_bind_eq_ok _ _ _).mp read
  obtain ⟨rfl, rfl⟩ := stating_eq_ok stated
  exact .assignment state here (outcome_ofExcept_eq_ok introduction)
    (outcome_ofExcept_eq_ok said) valued (listens_of_addressee addressed)

theorem reads_of_readQuestion {line : Nat} (state : reading.state = .dialogue)
    (here : reading.rest = ⟨.lexeme .be, line⟩ :: rest)
    (read : (readQuestion vocabulary reading line rest).outcome = .ok (statement, after)) :
    Reads vocabulary reading statement after := by
  unfold readQuestion at read
  split at read
  · cases read
  · rename_i unasked
    obtain ⟨query, queried, read⟩ := (Consulting.outcome_bind_eq_ok _ _ _).mp read
    obtain ⟨lhs, lhsValued, read⟩ := (Consulting.outcome_bind_eq_ok _ _ _).mp read
    obtain ⟨rhs, rhsValued, told⟩ := (Consulting.outcome_bind_eq_ok _ _ _).mp read
    obtain ⟨rfl, rfl⟩ := silent_eq_ok told
    exact .question state here (Option.not_isSome_iff_eq_none.mp unasked)
      (outcome_ofExcept_eq_ok queried) lhsValued rhsValued

theorem reads_of_readDialogue (state : reading.state = .dialogue)
    (here : reading.rest = token :: rest)
    (read : (readDialogue vocabulary reading token rest).outcome = .ok (statement, after)) :
    Reads vocabulary reading statement after := by
  obtain ⟨kind, line⟩ := token
  unfold readDialogue at read
  dsimp only at read
  split at read
  · exact reads_of_readAddress state here rfl read
  · exact reads_of_readAddress state here rfl read
  · exact reads_of_readAddress state here rfl read
  · exact reads_of_readAddress state here rfl read
  · exact reads_of_readAddress state here rfl read
  · exact reads_of_readPush state here read
  · obtain ⟨rfl, rfl⟩ := stating_eq_ok read
    exact .jump state here
  · exact reads_of_readConditionalJump state here read
  · exact reads_of_readAssignment state here read
  · exact reads_of_readQuestion state here read
  · cases read

/-- A part that succeeds with tokens before it follows the rules. -/
theorem reads_of_part (unfinished : reading.rest ≠ [])
    (read : (part vocabulary reading).outcome = .ok (statement, after)) :
    Reads vocabulary reading statement after := by
  unfold part at read
  split at read
  · contradiction
  · rename_i token rest here
    split at read
    · rename_i state
      obtain ⟨rfl, rfl⟩ := silent_eq_ok read
      exact .start state
    · rename_i state
      rw [← here] at read
      exact reads_of_readTitle state read
    · exact reads_of_readDeclaration (by assumption) here read
    · exact reads_of_readAct (by assumption) here read
    · exact reads_of_readScene (by assumption) here read
    · exact reads_of_readDirection (by assumption) here read
    · exact reads_of_readSpeaker (by assumption) here read
    · exact reads_of_readDialogue (by assumption) here read

end

/-! ### From one part to the next -/

/-- A part may go on, the first two parts have fixed successors, and the table
names the others. -/
inductive Follows (next : NextStates) (state : State) : State → Prop where
  | same : Follows next state state
  | title (atStart : state = .start) : Follows next state .title
  | characterDeclaration (atTitle : state = .title) : Follows next state .characterDeclaration
  | listed {target : State} (isListed : target ∈ next state) : Follows next state target

theorem mem_of_nextState {next : NextStates} {state target : State} {token : Token}
    (chosen : nextState next state token = .ok target) : target ∈ next state := by
  unfold nextState at chosen
  split at chosen
  · cases chosen
  · rename_i only onlyEq
    cases chosen
    have member : target ∈ token.kind.states.filter (next state).contains := by
      rw [onlyEq]
      exact List.mem_singleton_self target
    exact List.contains_iff_mem.mp (List.mem_filter.mp member).2
  · cases chosen

/-- Deciding on the next part changes nothing but the part under way. -/
theorem advance_follows {next : NextStates} {reading after : Reading}
    {transition : Option Transition} (advanced : advance next reading = .ok (after, transition)) :
    ∃ target, after = { reading with state := target } ∧ Follows next reading.state target := by
  unfold advance at advanced
  split at advanced
  · cases advanced
    exact ⟨reading.state, rfl, .same⟩
  · rename_i token _ _
    split at advanced
    · cases advanced
      exact ⟨_, rfl, .title (by assumption)⟩
    · cases advanced
      exact ⟨_, rfl, .characterDeclaration (by assumption)⟩
    · split at advanced
      · cases advanced
        exact ⟨reading.state, rfl, .same⟩
      · cases chosen : nextState next reading.state token with
        | error fault =>
            rw [chosen] at advanced
            cases advanced
        | ok target =>
            rw [chosen] at advanced
            cases advanced
            exact ⟨target, rfl, .listed (mem_of_nextState chosen)⟩

/-- Deciding on the next part fails only where the table leaves no choice or
several. -/
theorem nextState_of_advance_error {next : NextStates} {reading : Reading} {fault : ParseFault}
    (failed : advance next reading = .error fault) :
    ∃ token rest, reading.rest = token :: rest ∧
      nextState next reading.state token = .error fault := by
  unfold advance at failed
  split at failed
  · cases failed
  · rename_i token rest here
    split at failed
    · cases failed
    · cases failed
    · split at failed
      · cases failed
      · cases chosen : nextState next reading.state token with
        | ok target =>
            rw [chosen] at failed
            cases failed
        | error other =>
            rw [chosen] at failed
            cases failed
            exact ⟨token, rest, here, chosen⟩

/-- With the standard table every change of part is one that the table names. -/
theorem Follows.standard {state target : State}
    (follows : Follows NextStates.standard state target) :
    target = state ∨ target ∈ NextStates.standard state := by
  cases follows with
  | same => exact Or.inl rfl
  | title atStart =>
      subst atStart
      exact Or.inr (by decide)
  | characterDeclaration atTitle =>
      subst atTitle
      exact Or.inr (by decide)
  | listed isListed => exact Or.inr isListed

end Reading

end Playhouse
