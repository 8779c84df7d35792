/-
Module: Playhouse.Script.Reading
Purpose: Understanding a play part by part, from tokens to statements.
Main exports: Reading, Reading.ofTokens, Reading.part, Reading.nextState, Reading.advance
-/
import Playhouse.Script.Expression
import Playhouse.Script.Sentence

namespace Playhouse

/-!
A play is read part by part.  In every part a stretch of tokens is turned into
at most one statement, and the next token then decides which part follows.
-/

/-- The state of a reading between two parts. -/
structure Reading where
  state : State
  act : Option String
  scene : Option String
  company : Company
  /-- A question that still waits for its conditional jump. -/
  question : Option Question
  /-- The tokens still to be read. -/
  rest : List Token
deriving Repr, Inhabited, DecidableEq

namespace Reading

/-- The reading of a play that has not begun. -/
def ofTokens (tokens : List Token) : Reading :=
  ⟨.start, none, none, ⟨[], [], none⟩, none, tokens⟩

/-- What a part yields: a statement or nothing, and the reading after it. -/
abbrev Part := Consulting (Option Statement × Reading)

/-- A part that yields no statement. -/
def silent (after : Reading) : Part := pure (none, after)

/-- A part that yields a statement. -/
def stating (action : Action) (line : Nat) (after : Reading) : Part :=
  pure (some ⟨action, line⟩, after)

/-- The tag of a scene in the current act. -/
def tag (reading : Reading) (scene : String) : String :=
  reading.act.getD "None" ++ "." ++ scene

/-! ### Front matter and headings -/

/-- The title goes up to the first mark. -/
def readTitle (reading : Reading) (tokens : List Token) : Part :=
  match afterPunctuation? tokens with
  | some rest => silent { reading with rest := rest }
  | none =>
      Consulting.fail .titleUnfinished ((tokens.getLast?.map Token.line).getD 0)

/-- A declaration starts with a character and goes up to the first mark. -/
def readDeclaration (reading : Reading) (token : Token) (rest : List Token) : Part :=
  match token.kind with
  | .lexeme (.character name) =>
      match afterPunctuation? rest with
      | some after =>
          stating (.declare name) token.line
            { reading with
              rest := after
              company :=
                { reading.company with declared := NameSet.insert name reading.company.declared } }
      | none => Consulting.fail (.declarationUnfinished name) token.line
  | other => Consulting.fail (.declarationExpected other) token.line

def readAct (reading : Reading) (token : Token) (rest : List Token) : Part :=
  match token.kind with
  | .act number _ => silent { reading with rest := rest, act := some number }
  | other => Consulting.fail (.actExpected other) token.line

def readScene (reading : Reading) (token : Token) (rest : List Token) : Part :=
  match token.kind with
  | .scene number _ =>
      stating (.scene (reading.tag number)) token.line
        { reading with rest := rest, scene := some number }
  | other => Consulting.fail (.sceneExpected other) token.line

/-! ### The stage -/

/-- Change who is on stage.  A speaker who has left speaks no longer. -/
def withOnStage (reading : Reading) (onStage : NameSet) (rest : List Token) : Reading :=
  { reading with
    rest := rest
    company :=
      { reading.company with
        onStage := onStage
        speaker := reading.company.speaker.filter onStage.contains } }

/-- Only declared characters may enter, and only those on stage may leave. -/
def readDirection (reading : Reading) (token : Token) (rest : List Token) : Part :=
  match token.kind with
  | .enter names =>
      match NameSet.without names reading.company.declared with
      | [] => silent (reading.withOnStage (NameSet.union reading.company.onStage names) rest)
      | strangers => Consulting.fail (.strangersEnter strangers) token.line
  | .exit [] => silent (reading.withOnStage [] rest)
  | .exit names =>
      match NameSet.without names reading.company.onStage with
      | [] => silent (reading.withOnStage (NameSet.without reading.company.onStage names) rest)
      | absent => Consulting.fail (.absentExit absent) token.line
  | other => Consulting.fail (.directionExpected other) token.line

/-- A speech needs two characters on stage, one of them the speaker. -/
def readSpeaker (reading : Reading) (token : Token) (rest : List Token) : Part :=
  if reading.company.onStage.length ≠ 2 then
    Consulting.fail (.notTwoOnStage reading.company.onStage.length) token.line
  else
    match token.kind with
    | .speaking name =>
        if reading.company.onStage.contains name then
          silent
            { reading with
              rest := rest
              company := { reading.company with speaker := some name } }
        else Consulting.fail (.speakerAbsent name) token.line
    | other => Consulting.fail (.speakerExpected other) token.line

/-! ### Dialogue -/

/-- A statement about the listener that consists of a single token. -/
def readAddress (reading : Reading) (line : Nat) (rest : List Token)
    (action : String → Action) : Part := do
  let name ← Consulting.ofExcept (reading.company.addressee line)
  stating (action name) line { reading with rest := rest }

/-- Put the value of the sentence on the listener's stack. -/
def readPush (vocabulary : Vocabulary) (reading : Reading) (line : Nat) (rest : List Token) :
    Part := do
  let sentence ← Consulting.ofExcept (readSentence line rest)
  let value ←
    readExpression vocabulary reading.company sentence.endLine 1 sentence.words
  let name ← Consulting.ofExcept (reading.company.addressee line)
  stating (.push name value) line { reading with rest := sentence.rest }

/-- A jump whose condition is the question asked before it. -/
def readConditionalJump (reading : Reading) (affirmed : Bool) (target : String) (line : Nat)
    (rest : List Token) : Part :=
  match reading.question with
  | none => Consulting.fail .questionMissing line
  | some question =>
      let test := if affirmed then question else question.negated
      stating (.jumpIf test (reading.tag target) line) line
        { reading with rest := rest, question := none }

/-- The tokens of an assignment after its introduction, a verb or a verb with an
equality. -/
def afterIntroduction : List Token → Except ParseFault (List Token)
  | ⟨.lexeme .be, _⟩ :: ⟨.lexeme (.compare comparison), line⟩ :: rest =>
      if comparison = .equals then .ok rest else .error ⟨.equalityExpected, line⟩
  | ⟨.lexeme .be, _⟩ :: rest => .ok rest
  | tokens => .ok tokens

/-- Give the listener the value of the sentence. -/
def readAssignment (vocabulary : Vocabulary) (reading : Reading) (line : Nat)
    (rest : List Token) : Part := do
  let name ← Consulting.ofExcept (reading.company.addressee line)
  let tokens ← Consulting.ofExcept (afterIntroduction rest)
  let sentence ← Consulting.ofExcept (readSentence line tokens)
  let value ←
    readExpression vocabulary reading.company sentence.endLine 1 sentence.words
  stating (.assign (some name) line value) line { reading with rest := sentence.rest }

/-- Ask a question, which then waits for its conditional jump. -/
def readQuestion (vocabulary : Vocabulary) (reading : Reading) (line : Nat)
    (rest : List Token) : Part := do
  if reading.question.isSome then Consulting.fail .questionPending line
  else do
    let query ← Consulting.ofExcept (readQuery line rest)
    let lhs ← readExpression vocabulary reading.company query.endLine 1 query.lhs
    let rhs ← readExpression vocabulary reading.company query.endLine 1 query.rhs
    silent
      { reading with
        rest := query.rest
        question := some ⟨lhs, rhs, query.comparison.predicate, line⟩ }

/-- One sentence of a speech. -/
def readDialogue (vocabulary : Vocabulary) (reading : Reading) (token : Token)
    (rest : List Token) : Part :=
  match token.kind with
  | .printNumber => reading.readAddress token.line rest .printNumber
  | .printCharacter => reading.readAddress token.line rest .printCharacter
  | .scanNumber => reading.readAddress token.line rest .scanNumber
  | .scanCharacter => reading.readAddress token.line rest .scanCharacter
  | .popStack => reading.readAddress token.line rest .pop
  | .pushStack => readPush vocabulary reading token.line rest
  | .jump target =>
      stating (.jump (reading.tag target)) token.line { reading with rest := rest }
  | .conditionalJump affirmed target =>
      reading.readConditionalJump affirmed target token.line rest
  | .lexeme .secondPerson => readAssignment vocabulary reading token.line rest
  | .lexeme .be => readQuestion vocabulary reading token.line rest
  | other => Consulting.fail (.unexpectedInDialogue other) token.line

/-! ### Parts -/

/-- Read the part under way. -/
def part (vocabulary : Vocabulary) (reading : Reading) : Part :=
  match reading.rest with
  | [] => silent reading
  | token :: rest =>
      match reading.state with
      | .start => silent reading
      | .title => reading.readTitle (token :: rest)
      | .characterDeclaration => reading.readDeclaration token rest
      | .act => reading.readAct token rest
      | .scene => reading.readScene token rest
      | .stage => reading.readDirection token rest
      | .characterSpeaking => reading.readSpeaker token rest
      | .dialogue => readDialogue vocabulary reading token rest

/-- A change from one part to another, and the token that called for it. -/
structure Transition where
  source : State
  target : State
  token : Token
deriving Repr, Inhabited, DecidableEq

/-- The part that a token opens.  The table must leave exactly one choice. -/
def nextState (next : NextStates) (state : State) (token : Token) : Except ParseFault State :=
  match token.kind.states.filter (next state).contains with
  | [] => .error ⟨.unexpectedAfter token.kind state, token.line⟩
  | [only] => .ok only
  | choices => .error ⟨.ambiguous token.kind choices state, token.line⟩

/-- Decide on the next part by the next token.  The first two parts have fixed
successors, and a token may go on with the part under way. -/
def advance (next : NextStates) (reading : Reading) :
    Except ParseFault (Reading × Option Transition) :=
  match reading.rest with
  | [] => .ok (reading, none)
  | token :: _ =>
      match reading.state with
      | .start => .ok ({ reading with state := .title }, none)
      | .title => .ok ({ reading with state := .characterDeclaration }, none)
      | state =>
          if token.kind.keeps state then .ok (reading, none)
          else do
            let target ← nextState next state token
            pure ({ reading with state := target }, some ⟨state, target, token⟩)

end Reading

end Playhouse
